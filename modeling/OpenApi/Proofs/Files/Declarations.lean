import OpenApi.Proofs.Code.Declarations
import OpenApi.Proofs.Files.Imports
import OpenApi.Proofs.Files.Questions
import OpenApi.Proofs.Types.Compiled

/-!
What generated files declare. Every file is put together from declarations that begin and end at top
level, so its names are those of its parts in order: two or three for a component, one for an operation,
and the few that a file has of its own.
-/

namespace OpenApi

/-! ## What code declares -/

namespace Code

/-- The declarations of the code, as far as they are the compiler's own text. -/
def declarations (body : Code) : List Lex.Declaration :=
  (Lex.topLines Lex.everything {} true (body.seen Origin.isSite)).filterMap Lex.declaration?

/-- The names that the code declares. -/
def declaredNames (body : Code) : List String := body.declarations.map (·.name)

end Code

namespace Audit

/-- The audit lets everything pass, and the text of formats is a gap for it. -/
def plain : Audit where
  toRules := Lex.everything
  shows := Origin.isSite
  shows_site := Origin.isSite_site
  lenient := Lex.strict_refines_everything true
  covers _ := True
  covers_within _ _ := trivial
  mayConvert _ _ := True
  runtime _ _ := rfl
  queryString _ _ := rfl

theorem plain_hidesFormats : plain.HidesFormats := fun _ => beq_false_of_ne nofun

theorem plain_covers (s : Progress) : plain.Covers s := ⟨trivial, fun _ => trivial⟩

theorem plain_mayCall (name : String) : plain.MayCall name := rfl

theorem plain_suits {c : Compiler} (hmade : c.formats.All Format.IsMade)
    (hqualifier : ∀ types ∈ c.qualifier, types = "Types") : plain.Suits c where
  qualifier types h := by
    obtain rfl := hqualifier types h
    exact ⟨by decide, fun _ _ => rfl⟩
  formats h _ _ := by
    obtain ⟨rfl, hmade⟩ := hmade _ _ h
    exact Reader.treats_hidden hmade rfl rfl
  functions _ _ := rfl

end Audit

section

variable {body : Code} {found : List Lex.Declaration}

theorem Reader.Lists.declarations_eq (h : Audit.plain.Lists Lex.declaration? body found) :
    body.declarations = found := by
  obtain ⟨lines, hlines, rfl⟩ := h
  exact congrArg (List.filterMap Lex.declaration?) hlines.eq

theorem Reader.Lists.declaredNames_eq {names : List String}
    (h : Audit.plain.Lists Lex.declaredName? body names) : body.declaredNames = names := by
  obtain ⟨lines, hlines, rfl⟩ := h
  rw [Code.declaredNames, Code.declarations, List.map_filterMap]
  exact congrArg (List.filterMap Lex.declaredName?) hlines.eq

/-- The head of a file declares nothing. -/
theorem Reader.Lists.declarations (h : Audit.plain.Lists Lex.declaration? body found) (usage : Usage)
    (runtimeModule : String) (siblings : List (String × String)) :
    (File.contentOf usage runtimeModule siblings body).declarations = found :=
  ((Reader.Lists.hidden rfl rfl _).append h).declarations_eq

theorem Reader.Lists.declaredNames {names : List String}
    (h : Audit.plain.Lists Lex.declaredName? body names) (usage : Usage) (runtimeModule : String)
    (siblings : List (String × String)) :
    (File.contentOf usage runtimeModule siblings body).declaredNames = names :=
  ((Reader.Lists.hidden rfl rfl _).append h).declaredNames_eq

end

/-! ## Types -/

/-- The name of the type for a component. -/
def Document.componentName (doc : Document) (key : String) : String :=
  ((doc.refName (Pointer.ofSchema key)).toOption).getD ""

theorem Document.componentName_eq {doc : Document} {key name : String}
    (h : doc.refName (Pointer.ofSchema key) = .ok name) : doc.componentName key = name := by
  rw [componentName, h]
  rfl

theorem Document.componentName_identifierPart {doc : Document} {key : String}
    (h : doc.refName (Pointer.ofSchema key) = .ok (doc.componentName key)) :
    (doc.componentName key).toList.all Name.isIdentifierPart = true := refName_identifierPart h

theorem Document.componentName_wordPart {doc : Document} {key : String}
    (h : doc.refName (Pointer.ofSchema key) = .ok (doc.componentName key)) :
    (doc.componentName key).toList.all Text.isWordPart = true :=
  Text.all_wordPart_of_identifierPart (componentName_identifierPart h)

namespace Compiler

variable {c : Compiler}

/-- The name of the function that converts the values of a component. -/
def conversionName (c : Compiler) (key : String) (d : Direction) : String :=
  d.verb ++ Name.capitalized (c.document.componentName key)

/-- The name of the function that tells whether a value belongs to a component. -/
def validatorName (c : Compiler) (key : String) : String :=
  "validate" ++ Name.capitalized (c.document.componentName key)

theorem conversionName_wordPart {key : String}
    (h : c.document.refName (Pointer.ofSchema key) = .ok (c.document.componentName key)) (d : Direction) :
    (c.conversionName key d).toList.all Text.isWordPart = true :=
  Text.all_wordPart_of_identifierPart
    (d.function_identifierPart (Document.componentName_identifierPart h))

theorem validatorName_wordPart {key : String}
    (h : c.document.refName (Pointer.ofSchema key) = .ok (c.document.componentName key)) :
    (c.validatorName key).toList.all Text.isWordPart = true := by
  rw [validatorName, String.toList_append, List.all_append,
    Name.capitalized_wordPart (Document.componentName_wordPart h)]
  decide

open Classical in
/-- The functions that convert the values of a component: one for each direction in which they have
anything to convert. -/
noncomputable def conversions (c : Compiler) (key : String) : List String :=
  [Direction.parse, .serialize].flatMap fun d =>
    if Pointer.ofSchema key ∈ needed c d ∅ then [c.conversionName key d] else []

theorem mem_conversions {key : String} {d : Direction} (h : Pointer.ofSchema key ∈ needed c d ∅) :
    c.conversionName key d ∈ c.conversions key := by
  refine List.mem_flatMap.2 ⟨d, by cases d <;> simp, ?_⟩
  rw [if_pos h]
  exact List.mem_singleton_self _

/-- The declarations for a component: its type, and the functions that convert its values. -/
noncomputable def componentDeclarations (c : Compiler) (r : Reader) (entry : String × Schema) :
    List Lex.Declaration :=
  ⟨"export type ", c.document.componentName entry.1, some (r.glyphs (c.compiledType entry.2))⟩ ::
    (c.conversions entry.1).map fun name => ⟨"export function ", name, none⟩

theorem typeName_eq_ok {reference name : String} {s s' : Progress}
    (h : c.typeName reference s = .ok (name, s')) :
    ∃ target, c.document.refName reference = .ok target ∧ name = c.qualified target := by
  cases htarget : c.document.refName reference with
  | error cause =>
    unfold typeName at h
    rw [htarget] at h
    cases h
  | ok target =>
    obtain ⟨ctx, happly⟩ := c.qualify_apply target s
    have hname : c.typeName reference s = c.qualify target s := by
      unfold typeName
      rw [htarget]
      rfl
    cases (hname.symm.trans h).symm.trans happly
    exact ⟨target, rfl, rfl⟩

section

variable {r : Audit} (hr : r.Suits c) (hcovers : ∀ s, r.Covers s) (hnames : ∀ name, r.MayCall name)
  (hhide : r.HidesFormats) (hqualifier : c.qualifier = none) {key name : String} {schema : Schema}
  {s s' : Progress} {code : Code}

theorem signature_head? (name : String) (d : Direction) :
    (r.glyphs (signature name d)).head? = some (.char '(') := by
  cases d <;> simp [signature]

theorem sound_function (hname : name.toList.all Text.isWordPart = true) {function : String}
    (hfunction : r.Callee (Code.site function)) (d : Direction) :
    r.Sound (Code.cat ["export function ", function, signature name d]) := by
  have hname := Text.all_ordinary hname
  cases d with
  | parse =>
    have hfits : r.Fits _ ["export function ", Code.site function, "(value: any): ", name] :=
      .text (.callee hfunction (.text (.ordinary hname .nil)))
    exact (hfits.cat (by decide)).congr (by simp [signature])
  | serialize =>
    have hfits : r.Fits _ ["export function ", Code.site function, "(value: ", name, "): any"] :=
      .text (.callee hfunction (.text (.ordinary hname (.text .nil))))
    exact (hfits.cat (by decide)).congr (by simp [signature])

theorem oneLine_signature (hname : name.toList.all Text.isWordPart = true) (d : Direction) :
    r.OneLine (signature name d) := by
  have hname : r.OneLine (Code.site name) := Reader.oneLine_name hname
  cases d with
  | parse =>
    refine Reader.oneLine_cat ?_
    simp only [List.forall_mem_cons]
    exact ⟨Reader.oneLine_site (by decide), hname, List.forall_mem_nil _⟩
  | serialize =>
    refine Reader.oneLine_cat ?_
    simp only [List.forall_mem_cons]
    exact ⟨Reader.oneLine_site (by decide), hname, Reader.oneLine_site (by decide),
      List.forall_mem_nil _⟩

include hr hcovers hnames hhide hqualifier

omit hhide in
open Classical in
/-- A function is written for a component if that has anything to convert. -/
theorem conversionFunction_lists
    (hname : c.document.refName (Pointer.ofSchema key) = .ok (c.document.componentName key))
    (hs : c.History s.probes) {d : Direction}
    (h : c.conversionFunction (c.document.componentName key) (Pointer.ofSchema key) schema d s =
      .ok (code, s')) :
    r.Lists Lex.declaration? code (if Pointer.ofSchema key ∈ needed c d ∅ then
      [⟨"export function ", c.conversionName key d, none⟩] else []) := by
  obtain ⟨b, s₁, hb, h⟩ := Compile.bind_eq_ok.1 h
  have hneeded := (needsConversion_answers hb).ref_iff hs.sound.1 hs.sound.2
  cases b with
  | false =>
    cases h
    rw [if_neg fun hmem => Bool.false_ne_true (hneeded.2 hmem)]
    exact .empty
  | true =>
    rw [if_pos (hneeded.1 rfl)]
    obtain ⟨function, s₂, hfunction, h⟩ := Compile.bind_eq_ok.1 h
    obtain ⟨converted, s₃, hconverted, h⟩ := Compile.bind_eq_ok.1 h
    cases h
    obtain ⟨target, _, htarget, _, rfl⟩ := functionName_eq_ok hfunction
    cases htarget.symm.trans hname
    have hfunction : c.qualified (d.verb ++ Name.capitalized (c.document.componentName key)) =
        c.conversionName key d := by
      rw [qualified, hqualifier, conversionName]
    rw [hfunction]
    have hvalue : r.Operand "value" := Reader.operand_given (by decide)
    have hsound := (convert_writes hr d schema hvalue).ensures hcovers _ _ _ hconverted
    have hword := Document.componentName_wordPart hname
    have hinner : r.Complete (Code.cat ["  ", converted.returned, "\n"]) :=
      (Reader.Fits.text (.complete (.returned hsound) (.text .nil))).catComplete (by decide)
    have hfunction := conversionName_wordPart hname d
    have hcallee := (hnames _).callee (Text.all_ordinary hfunction)
    have hlists := (Reader.Lists.function (by decide) hfunction
      (sound_function hword hcallee d) (oneLine_signature hword d)
      (signature_head? _ d) hinner).append (.blank rfl)
    exact hlists.congr (by simp)

/-- The declarations for a component: its type, and its functions. -/
theorem typeDeclarations_lists (hschema : schema ∈ c.document.mentioned)
    (hs : c.History s.probes) (h : c.typeDeclarations key schema s = .ok (code, s')) :
    c.document.refName (Pointer.ofSchema key) = .ok (c.document.componentName key) ∧
      r.Lists Lex.declaration? code (c.componentDeclarations r.toReader (key, schema)) := by
  obtain ⟨name, s₁, hname, h⟩ := Compile.bind_eq_ok.1 h
  obtain ⟨type, s₂, htype, h⟩ := Compile.bind_eq_ok.1 h
  obtain ⟨parse, s₃, hparse, h⟩ := Compile.bind_eq_ok.1 h
  obtain ⟨serialize, s₄, hserialize, h⟩ := Compile.bind_eq_ok.1 h
  have hs₁ := typeName_keeps _ s name s₁ hname hs
  have hs₂ := schemaType_keeps schema s₁ type s₂ htype hs₁
  have hs₃ := conversionFunction_keeps History.converting _ hschema (History.needsConversion_keeps _ _)
    s₂ parse s₃ hparse hs₂
  obtain ⟨target, htarget, rfl⟩ := typeName_eq_ok hname
  obtain rfl := Document.componentName_eq htarget
  have hname : c.qualified (c.document.componentName key) = c.document.componentName key := by
    rw [qualified, hqualifier]
  rw [hname] at hparse hserialize h
  cases h
  have hword := Document.componentName_wordPart htarget
  have hparse := conversionFunction_lists hr hcovers hnames hqualifier htarget hs₂ hparse
  have hserialize := conversionFunction_lists hr hcovers hnames hqualifier htarget hs₃ hserialize
  have hsound := (schemaType_writes hr schema).ensures hcovers _ _ _ htype
  have hnone : ∀ types ∈ c.qualifier, '\n' ∉ types.toList := by simp [hqualifier]
  have hline := schemaType_oneLine hhide hnone schema _ _ _ htype
  have hdeclaration : r.Sound (Code.cat ["export type ", c.document.componentName key,
      Code.cat [" = ", type, ";"]]) := by
    have hfits : r.Fits _ ["export type ", Code.site (c.document.componentName key), " = ", type, ";"] :=
      .text (.ordinary (Text.all_ordinary hword) (.text (.sound hsound (.text .nil))))
    exact (hfits.cat (by decide)).congr (by simp)
  have hlists := (Reader.Lists.declaration (by decide) hword (by simp) hdeclaration
    (hline.wrapped (by decide) (by decide))).append
      ((Reader.Lists.blank rfl).append (hparse.append hserialize))
  refine ⟨htarget, (hlists.congr (by simp)).congr_found ?_⟩
  have hvalue : Lex.declaredValue? (r.glyphs (Code.cat [" = ", type, ";"])) = some (r.glyphs type) := by
    simpa using Lex.declaredValue?_some (r.glyphs type)
  rw [hvalue, componentDeclarations, compiledType_eq htype]
  simp [conversions, apply_ite (List.map _)]

/-- The file of types has the declarations for all components. -/
theorem typesBody_lists (h : c.typesBody {} = .ok (code, s')) :
    (∀ entry ∈ c.document.spec.schemas,
      c.document.refName (Pointer.ofSchema entry.1) = .ok (c.document.componentName entry.1)) ∧
    r.Lists Lex.declaration? code
      (c.document.spec.schemas.flatMap (c.componentDeclarations r.toReader)) := by
  obtain ⟨declarations, s₁, hdeclarations, h⟩ := Compile.bind_eq_ok.1 h
  cases h
  have hmentioned : ∀ entry ∈ c.document.spec.schemas, entry.2 ∈ c.document.mentioned :=
    fun entry h => Document.Declares.mentioned (.component h)
  have hkeeps : ∀ entry ∈ c.document.spec.schemas,
      Keeps c.History (c.typeDeclarations entry.1 entry.2) := fun entry h =>
    typeDeclarations_keeps History.converting (hmentioned entry h) fun d =>
      History.needsConversion_keeps d _
  have hruns := Keeps.mapM_forall₂ hkeeps History.start hdeclarations
  have hall := ((List.forall₂_and_left _ _).2 ⟨hmentioned, hruns⟩).imp
    fun entry code ⟨hmentioned, s₁, s₂, hs₁, hrun⟩ =>
      typeDeclarations_lists hr hcovers hnames hhide hqualifier hmentioned hs₁ hrun
  obtain ⟨hnames, hlists⟩ := (List.forall₂_and_left _ _).1 hall
  refine ⟨hnames, ?_⟩
  split
  case isTrue hempty =>
    rw [List.isEmpty_iff] at hempty
    rw [hempty] at hlists
    rw [List.forall₂_nil_right_iff.1 hlists]
    exact .exports
  case isFalse => exact .cat hlists

end

/-! ## Validators -/

section

variable {r : Audit} (hr : r.Suits c) (hcovers : ∀ s, r.Covers s) (hnames : ∀ name, r.MayCall name)
  (hhide : r.HidesFormats)

include hr hcovers hnames

/-- A function tells whether a value is of the type of a component. -/
theorem validatorFunction_lists (key : String) : Ensures (c.validatorFunction key) fun code =>
    c.document.refName (Pointer.ofSchema key) = .ok (c.document.componentName key) ∧
      r.Lists Lex.declaredName? code [c.validatorName key] := by
  have htype := ((typeName_writes hr (Pointer.ofSchema key)).ensures hcovers).and
    (typeName_oneLine (r := r.toReader) (newline_notMem_qualifier hr) (Pointer.ofSchema key))
  refine .bind htype fun type ⟨hsound, hline⟩ => .bind_read fun name hname => .pure ?_
  have hname := Except.mapError_eq_ok.1 hname
  obtain rfl := Document.componentName_eq hname
  have hfunction := validatorName_wordPart hname
  have hhead : r.Sound (Code.cat ["export function ", c.validatorName key,
      Code.cat ["(value: unknown): value is ", type]]) := by
    have hfits : r.Fits _ ["export function ", Code.site (c.validatorName key),
        "(value: unknown): value is ", type] :=
      .text (.callee ((hnames _).callee (Text.all_ordinary hfunction)) (.text (.sound hsound .nil)))
    exact (hfits.cat (by decide)).congr (by simp)
  have hrest : r.OneLine (Code.cat ["(value: unknown): value is ", type]) := by
    refine Reader.oneLine_cat ?_
    simp only [List.forall_mem_cons]
    exact ⟨Reader.oneLine_site (by decide), hline, List.forall_mem_nil _⟩
  have hinner : r.Complete (Code.cat ["  return validator(", quoted (Pointer.ofSchema key),
      ", value);\n"]) :=
    (Reader.Fits.text (.complete (Reader.complete_quoted _) (.text .nil))).catComplete (by decide)
  have hblank : r.Lists Lex.declaration? "\n" [] := .blank rfl
  have hlists := hblank.append
    (Reader.Lists.function (by decide) hfunction hhead hrest (by simp) hinner)
  refine ⟨hname, hlists.names.congr ?_⟩
  simp [validatorName]

include hhide

/-- The file of validators has a function for each component, after one that all of them call. -/
theorem validatorsBody_lists : Ensures c.validatorsBody fun code =>
    (∀ entry ∈ c.document.spec.schemas,
      c.document.refName (Pointer.ofSchema entry.1) = .ok (c.document.componentName entry.1)) ∧
    r.Lists Lex.declaredName? code
      ("validator" :: c.document.spec.schemas.flatMap fun entry => [c.validatorName entry.1]) := by
  have hcreate : Ensures (Compile.runtime "createValidator") fun create =>
      r.Callee (Code.site create) ∧ r.Line (Code.site create) :=
    ((Writes.runtime_callee (by decide)).ensures hcovers).and
      ((Writes.runtime_line (by decide)).ensures hcovers)
  refine .bind hcreate fun create ⟨hcallee, hcreate⟩ => ?_
  refine .bind (.mapM fun entry _ => validatorFunction_lists hr hcovers hnames entry.1)
    fun functions hall => ?_
  obtain ⟨hnames, hlists⟩ := (List.forall₂_and_left _ _).1 hall
  refine .pure ⟨hnames, ?_⟩
  have hline : r.OneLine (Code.cat [" = ", Code.site create,
      (Code.site (componentsOnly c.document).text).parens, ";"]) := by
    refine Reader.oneLine_cat ?_
    simp only [List.forall_mem_cons]
    exact ⟨Reader.oneLine_site (by decide), hcreate.oneLine hhide,
      (Reader.oneLine_site (Json.newline_notMem_text _)).parens, Reader.oneLine_site (by decide),
      List.forall_mem_nil _⟩
  have hfits : r.Fits _ ["const validator = ", Code.site create, "(",
      Code.site (componentsOnly c.document).text, ")", ";"] :=
    .text (.callee hcallee (.text (.sound (Reader.sound_text _) (.text (.text .nil)))))
  have hsound : r.Sound (Code.cat ["const ", "validator", Code.cat [" = ", Code.site create,
      (Code.site (componentsOnly c.document).text).parens, ";"]]) :=
    (hfits.cat (by decide)).congr (by simp [Code.parens])
  have hfirst := (Reader.Lists.declaration (by decide) (by decide) (by simp) hsound hline).names
  refine (hfirst.append (.cat hlists)).congr ?_
  simp

end

end Compiler

/-! ## Functions for operations -/

namespace Reader

variable {r : Reader} {name : String} {code : Code}

theorem IsFunction.lists (h : r.IsFunction name code) (hcall : r.MayCall name)
    (hhide : r.HidesFormats) (hname : name.toList.all Text.isWordPart = true) :
    r.Lists Lex.declaredName? code [name] := by
  obtain ⟨harguments, hresult, hbody⟩ := h
  rename_i arguments result body
  have hsound : r.Sound (Code.cat ["export async function ", name,
      Code.cat [arguments.parens, ": Promise<", result, ">"]]) :=
    (sound_functionHead hname hcall harguments.sound hresult.sound).congr (by simp [Code.functionHead])
  have hline : r.OneLine (Code.cat [arguments.parens, ": Promise<", result, ">"]) := by
    refine oneLine_cat ?_
    simp only [List.forall_mem_cons]
    exact ⟨(harguments.oneLine hhide).parens, oneLine_site (by decide), hresult.oneLine hhide,
      oneLine_site (by decide), List.forall_mem_nil _⟩
  have hlists := Lists.function (by decide) hname hsound hline (by simp [Code.parens])
    (complete_codeOfAll 1 _ hbody)
  refine hlists.names.congr ?_
  simp [Statement.only, Statement.code, Statement.indented, Statement.codeOfOthers, Code.functionHead]

theorem IsHandlerType.lists (h : r.IsHandlerType name code) (hhide : r.HidesFormats)
    (hname : name.toList.all Text.isWordPart = true) : r.Lists Lex.declaredName? code [name] := by
  obtain ⟨harguments, hresult⟩ := h
  rename_i arguments result
  have hfits : r.Fits _ ["export type ", Code.site name, " = ", arguments.parens, " => Promise<", result,
      ">;"] :=
    .text (.ordinary (Text.all_ordinary hname) (.text (.value (.parens harguments.sound)
      (.text (.sound hresult.sound (.text .nil))))))
  have hsound : r.Sound (Code.cat ["export type ", name,
      Code.cat [" = ", arguments.parens, " => Promise<", result, ">;"]]) :=
    (hfits.cat (by decide)).congr (by simp)
  have hline : r.OneLine (Code.cat [" = ", arguments.parens, " => Promise<", result, ">;"]) := by
    refine oneLine_cat ?_
    simp only [List.forall_mem_cons]
    exact ⟨oneLine_site (by decide), (harguments.oneLine hhide).parens, oneLine_site (by decide),
      hresult.oneLine hhide, oneLine_site (by decide), List.forall_mem_nil _⟩
  have hlists := Lists.declaration (by decide) hname (by simp) hsound hline
  refine hlists.names.congr ?_
  simp [Code.handlerType]

end Reader

namespace Compiler

variable {c : Compiler} {r : Audit} (hr : r.Suits c) (hcovers : ∀ s, r.Covers s)
  (hnames : ∀ name, r.MayCall name) (hhide : r.HidesFormats)

include hr hcovers hnames hhide

theorem clientCall_lists (o : ResolvedOperation) :
    Ensures (c.clientCall o) fun code => r.Lists Lex.declaredName? code [o.functionName] := by
  refine ((clientCall_function hr o).ensures hcovers).mono ?_
  rintro _ ⟨function, rfl, hfunction⟩
  exact (Reader.Lists.docComment (by decide) o.operation).append
    (hfunction.lists (hnames _) hhide (Name.camel_wordPart _))

omit hr hcovers hnames hhide in
/-- The address of the server is declared if the document has one. -/
theorem serverAddress_lists (url? : Option String) :
    r.Lists Lex.declaredName? (match url? with
      | some url => Code.cat ["export const defaultServer = ", quoted url, ";\n\n"]
      | none => Code.empty) (url?.map fun _ => "defaultServer").toList := by
  cases url? with
  | none => exact .empty
  | some url =>
    have hfits : r.Fits _ ["export const defaultServer = ", quoted url, ";"] :=
      .text (.complete (Reader.complete_quoted url) (.text .nil))
    have hsound : r.Sound (Code.cat ["export const ", "defaultServer",
        Code.cat [" = ", quoted url, ";"]]) :=
      (hfits.cat (by decide)).congr (by simp)
    have hline : r.OneLine (Code.cat [" = ", quoted url, ";"]) :=
      (Reader.oneLine_quoted url).wrapped (by decide) (by decide)
    have hlists := (Reader.Lists.declaration (by decide) (by decide) (by simp) hsound hline).names
    exact (hlists.append (.blank (by decide))).congr (by simp)

/-- The file of a client has the address of the server, if there is one, and a function for each
operation. -/
theorem clientBody_lists : Ensures c.clientBody fun code => ∃ operations,
    c.document.operations = .ok operations ∧ r.Lists Lex.declaredName? code
      ((c.document.spec.defaultServer.map fun _ => "defaultServer").toList ++
        operations.flatMap fun o => [o.functionName]) := by
  refine .bind_read' fun operations hoperations => ?_
  refine .bind (.mapM fun o _ => clientCall_lists hr hcovers hnames hhide o) fun calls hcalls => ?_
  have hserver := serverAddress_lists (r := r) c.document.spec.defaultServer
  refine .ite_of (fun hempty => .pure ⟨operations, hoperations, ?_⟩)
    fun _ => .pure ⟨operations, hoperations, hserver.append (.join (by decide) hcalls)⟩
  -- without calls and an address there are neither operations nor a server
  obtain ⟨hnocalls, hnoserver⟩ := Bool.and_eq_true_iff.1 hempty
  have hnone := hserver.unique (.of_isEmpty hnoserver)
  rw [List.isEmpty_iff.1 hnocalls] at hcalls
  rw [hnone, List.forall₂_nil_right_iff.1 hcalls]
  exact Reader.Lists.exports.names

omit hnames in
/-- The file of handler types has the type of a handler for each operation, and one for all of them. -/
theorem handlerTypesBody_lists : Ensures c.handlerTypesBody fun code => ∃ operations,
    c.document.operations = .ok operations ∧ r.Lists Lex.declaredName? code
      ((operations.flatMap fun o => [o.handlerType]) ++ ["Handlers"]) := by
  refine .bind_read' fun operations hoperations => ?_
  have handlerType (o : ResolvedOperation) : Ensures
      (do return (← c.handlerType o) ++ "\n" : Write Code)
      fun code => r.Lists Lex.declaredName? code [o.handlerType] :=
    .bind ((handlerType_isHandlerType hr o).ensures hcovers) fun _ htype =>
      .pure ((htype.lists hhide o.handlerType_wordPart).append (.blank (by decide)))
  refine .bind (.mapM fun o _ => handlerType o) fun types htypes => .pure ⟨operations, hoperations, ?_⟩
  have hgiven : r.Sound "export type Handlers =" := Reader.sound_given (by decide)
  have hsound : r.Sound (Code.cat ["export type ", "Handlers", " ="]) := hgiven.congr (by simp)
  have hrecord := (Reader.Lists.declaredBlock (by decide) (by decide) (by simp) hsound
    (Reader.oneLine_site (by decide)) [';'] (complete_handlers operations) (by decide)).names
  exact ((Reader.Lists.cat htypes).append hrecord).congr (by simp)

/-- The file of a server has a function for each operation, and the table of routes. -/
theorem serverBody_lists : Ensures c.serverBody fun code => ∃ operations,
    c.document.operations = .ok operations ∧ r.Lists Lex.declaredName? code
      ((operations.flatMap fun o => [o.endpoint]) ++ ["routes"]) := by
  refine .bind_read' fun operations hoperations => ?_
  have endpoint (o : ResolvedOperation) : Ensures
      (do return (← c.endpoint o ("ServerTypes." ++ o.handlerType)) ++ "\n" : Write Code)
      fun code => r.Lists Lex.declaredName? code [o.endpoint] :=
    .bind ((endpoint_function hr o (line_serverTypes o)).ensures hcovers) fun _ hendpoint =>
      .pure ((hendpoint.lists (hnames _) hhide o.endpoint_wordPart).append (.blank (by decide)))
  refine .bind (.mapM fun o _ => endpoint o) fun endpoints hendpoints => ?_
  have hroute : Ensures (liftM (Compile.runtime "Route") : Write String)
      fun route => r.Line (Code.site route) :=
    (Writes.lift (Writes.runtime_line (by decide))).ensures hcovers
  refine .bind hroute fun route hroute => .pure ⟨operations, hoperations, ?_⟩
  have hfits : r.Fits _ ["export function routes(handlers: ServerTypes.Handlers): Array<", route, ">"] :=
    .text (.sound hroute.sound (.text .nil))
  have hsound : r.Sound (Code.cat ["export function ", "routes",
      Code.cat ["(handlers: ServerTypes.Handlers): Array<", route, ">"]]) :=
    (hfits.cat (by decide)).congr (by simp)
  have hline : r.OneLine (Code.cat ["(handlers: ServerTypes.Handlers): Array<", route, ">"]) :=
    (hroute.oneLine hhide).wrapped (by decide) (by decide)
  have hentries : r.Complete (Code.cat (operations.map routeEntry)) :=
    Reader.complete_cat (List.forall_mem_map.2 fun o _ => complete_routeEntry o (hnames _))
  have hinner :
      r.Complete (Code.cat ["  return [\n", Code.cat (operations.map routeEntry), "  ];\n"]) := by
    have hfits : r.Fits _ ["  return [\n", Code.cat (operations.map routeEntry), "  ];\n"] :=
      .text (.complete hentries (.text .nil))
    exact hfits.catComplete (by decide)
  have hroutes := (Reader.Lists.function (by decide) (by decide) hsound hline (by simp) hinner).names
  exact ((Reader.Lists.cat hendpoints).append hroutes).congr (by simp)

end Compiler

end OpenApi

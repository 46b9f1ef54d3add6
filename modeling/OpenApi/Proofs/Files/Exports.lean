import OpenApi.Proofs.Document.Components
import OpenApi.Proofs.Files.Names

/-!
What the names of types stand for. A reference to a schema is written as the name of a type, and the file
of types declares one for every component: under the name of its reference, with the type of the schema
that the reference leads to. References into a component are named after what they lead to as well, but
nothing is declared for them.
-/

namespace OpenApi

/-! ## Types -/

namespace Compiler

variable {c : Compiler}

/-- A reference is written as the name of a type. -/
theorem schemaType_ref {reference name : String} (h : c.document.refName reference = .ok name)
    (s : Progress) : ∃ s', c.schemaType (.ref reference) s = .ok (Code.site (c.qualified name), s') := by
  obtain ⟨ctx, hqualify⟩ := c.qualify_apply name s
  have hname : c.typeName reference s = .ok (c.qualified name, { s with context := ctx }) := by
    unfold typeName
    rw [h]
    exact hqualify
  exact ⟨_, Compile.bind_eq_ok.2 ⟨_, _, hname, rfl⟩⟩

/-- The declaration of a type. -/
def typeText (name : String) (type : Code) : String :=
  "export type " ++ name ++ " = " ++ type.render ++ ";\n"

theorem render_typeDeclaration (name : String) (type parse serialize : Code) :
    (Code.cat ["export type ", name, " = ", type, ";\n\n", parse, serialize]).render =
      typeText name type ++ ("\n" ++ parse.render ++ serialize.render) := by
  unfold typeText
  exact String.toList_inj.1 (by simp)

theorem typeDeclarations_text (hqualifier : c.qualifier = none) (key : String) (schema : Schema) :
    Ensures (c.typeDeclarations key schema) fun code =>
      (∃ s s', c.schemaType schema s = .ok (c.compiledType schema, s')) ∧
        ∃ after,
          code.render = typeText (c.document.componentName key) (c.compiledType schema) ++ after := by
  have hname : Ensures (c.typeName (Pointer.ofSchema key)) fun name =>
      name = c.document.componentName key := by
    intro s name s' h
    obtain ⟨target, htarget, rfl⟩ := typeName_eq_ok h
    rw [qualified, hqualifier, Document.componentName_eq htarget]
  refine .bind hname fun name hname => .bind (.result _) fun type hresult => ?_
  refine .bind_any fun parse => .bind_any fun serialize => .pure ?_
  obtain ⟨s, s', htype⟩ := hresult
  have htype : c.schemaType schema s = .ok (type, s') := htype
  obtain rfl := compiledType_eq htype
  subst hname
  exact ⟨⟨s, s', htype⟩, _, render_typeDeclaration ..⟩

/-- The file of types has the declaration of every component. -/
theorem typesBody_text (hqualifier : c.qualifier = none) : Ensures c.typesBody fun code =>
    ∀ entry ∈ c.document.spec.schemas,
      (∃ s s', c.schemaType entry.2 s = .ok (c.compiledType entry.2, s')) ∧ ∃ before after,
        code.render = before ++
          typeText (c.document.componentName entry.1) (c.compiledType entry.2) ++ after := by
  refine .bind (.mapM fun entry _ => typeDeclarations_text hqualifier entry.1 entry.2)
    fun declarations hdeclarations => .pure fun entry hentry => ?_
  obtain ⟨declaration, hmem, htype, after, hrender⟩ := exists_mem_zip hdeclarations hentry
  refine ⟨htype, ?_⟩
  obtain ⟨earlier, later, rfl⟩ := List.append_of_mem (List.of_mem_zip hmem).2
  have hnonempty : (earlier ++ declaration :: later).isEmpty = false := by simp
  rw [hnonempty]
  refine ⟨String.join (earlier.map Code.render), after ++ String.join (later.map Code.render), ?_⟩
  show (Code.cat (earlier ++ declaration :: later)).render = _
  rw [Code.render_cat, List.map_append, List.map_cons, String.join_append, String.join_cons, hrender]
  simp only [String.append_assoc]

end Compiler

/-! ## References to components -/

namespace Document

variable {raw : Json} {document : Document} {key reference name : String} {schema : Schema}

/-- Where the reference to a component has a name, it leads to the schema that the model holds. -/
theorem resolveAs_of_refName (hdocument : ofJson raw = .ok document)
    (hschema : document.spec.schemas.get? key = some schema)
    (hname : document.refName (Pointer.ofSchema key) = .ok name) :
    document.resolveAs (Pointer.ofSchema key) "schema" Schema.decode = .ok schema := by
  obtain ⟨target, htarget, _⟩ := Except.bind_eq_ok.1 hname
  cases hcomponents : document.spec.components with
  | none =>
    rw [Spec.schemas, hcomponents] at hschema
    cases hschema
  | some c =>
    rw [Spec.schemas, hcomponents] at hschema
    have hentry : (Section.schemas.held c).get? key = some schema := hschema
    by_cases hnames : raw.NamesComponents
    · obtain ⟨value, hvalue, hread⟩ := resolve_component hdocument hnames hcomponents hentry
      refine Except.bind_eq_ok.2 ⟨value, hvalue, Except.mapError_eq_ok.2 hread⟩
    · obtain ⟨segment, herror⟩ := resolve_component_unnamed hdocument hnames hcomponents .schemas key
      cases htarget.symm.trans herror

end Document

/-! ## Files -/

/-- The file exports the type under the name, in a declaration of its own. -/
structure File.ExportsType (file : File) (name : String) (type : Code) : Prop where
  declared : ⟨"export type ", name, some (type.seen Origin.isSite)⟩ ∈ file.content.declarations
  text : ∃ before after, file.content.render = before ++ Compiler.typeText name type ++ after
  only : file.content.declaredNames.Nodup → ∀ declaration ∈ file.content.declarations,
    declaration.name = name → declaration.value = some (type.seen Origin.isSite)

/-- The name is what a reference is written as, with the qualifier of the file that it stands in, and the
file exports the type of the schema that the reference leads to under that name. -/
structure Plan.ExportsReference (plan : Plan) (document : Document) (reference name : String)
    (schema : Schema) (type : Code) (file : File) : Prop where
  written (c : Compiler) : c.document = document → ∀ s, ∃ s',
    c.schemaType (.ref reference) s = .ok (Code.site (c.qualified name), s')
  resolved : document.resolveAs reference "schema" Schema.decode = .ok schema
  compiled (s : Progress) : ∃ s', (plan.compiler document).schemaType schema s = .ok (type, s')
  exported : file.ExportsType name type

namespace Plan

variable {plan : Plan} {document : Document}

/-- If types are wanted, the file of types is among those that are generated. -/
theorem types_of_generate {files : List File} (htypes : plan.targets.types = true)
    (h : Yields.yields (plan.generate document) files) : ∃ file ∈ files,
      Yields.yields (plan.file "types.ts" (plan.compiler document) [] fun c => c.typesBody) file := by
  rcases Yields.ite h with ⟨_, h⟩ | ⟨_, h⟩
  on_goal 1 => obtain ⟨_, _, h⟩ := Yields.yields_bind h
  all_goals
    obtain ⟨typeFiles, htypeFiles, h⟩ := Yields.yields_bind h
    obtain ⟨validatorFiles, _, h⟩ := Yields.yields_bind h
    obtain ⟨clientFiles, _, h⟩ := Yields.yields_bind h
    obtain ⟨serverFiles, _, h⟩ := Yields.yields_bind h
    cases Yields.yields_pure h
    rcases Yields.ite htypeFiles with ⟨_, htypeFiles⟩ | ⟨hnone, _⟩
    · obtain ⟨file, hfile, htypeFiles⟩ := Yields.yields_bind htypeFiles
      cases Yields.yields_pure htypeFiles
      exact ⟨file, by simp, hfile⟩
    · exact absurd htypes hnone

/-- A reference that names a component, in whatever spelling, is written as the name under which the file
of types exports the type of the schema that the reference leads to. -/
theorem generate_exportsType {config : Config} {raw : Json} {files : List File}
    {issued issued' : List Warning} {reference key : String} {schema : Schema}
    (hdocument : Document.ofJson raw = .ok document) (hplan : Plan.ofConfig config = .ok plan)
    (htypes : plan.targets.types = true) (h : plan.generate document issued = (.ok files, issued'))
    (hreference : Pointer.segments reference = .ok ["components", "schemas", key])
    (hschema : document.spec.schemas.get? key = some schema) :
    ∃ name type, ∃ file ∈ files, file.path = "types.ts" ∧
      plan.ExportsReference document reference name schema type file := by
  have hmade := formats_isMade hplan
  obtain ⟨file, hmem, hfile⟩ := types_of_generate htypes ⟨issued, issued', h⟩
  obtain ⟨hpath, body, progress, usage, ⟨_, _, hbody⟩, hcontent⟩ := file_eq hfile
  have hbody : (plan.compiler document).typesBody {} = .ok (body, progress) := congrArg Prod.fst hbody
  have hsuits : Audit.plain.Suits (plan.compiler document) := Audit.plain_suits hmade nofun
  obtain ⟨hnamed, hlists⟩ := Compiler.typesBody_lists hsuits Audit.plain_covers
    Audit.plain_mayCall Audit.plain_hidesFormats rfl hbody
  have hentry : (key, schema) ∈ document.spec.schemas := Members.mem_of_get? hschema
  obtain ⟨⟨s, s', htype⟩, before, after, hrender⟩ :=
    Compiler.typesBody_text rfl {} body progress hbody _ hentry
  have hkey := Pointer.segments_ofSchema key
  have hname : document.refName (Pointer.ofSchema key) = .ok (document.componentName key) :=
    hnamed (key, schema) hentry
  have hresolved := Document.resolveAs_of_refName hdocument hschema hname
  have hdeclarations := hlists.declarations usage plan.runtimeModule []
  rw [← hcontent] at hdeclarations
  let type := (plan.compiler document).compiledType schema
  have hdeclared : ⟨"export type ", document.componentName key, some (type.seen Origin.isSite)⟩ ∈
      file.content.declarations := by
    rw [hdeclarations]
    exact List.mem_flatMap.2 ⟨(key, schema), hentry, List.mem_cons_self⟩
  have hresolved := Document.resolveAs_congr hkey hreference hresolved
  have hcompiled := (Compiler.schemaType_steady schema).eq_ok htype
  refine ⟨document.componentName key, type, file, hmem, hpath,
    ⟨?_, hresolved, hcompiled, ⟨hdeclared, ?_, ?_⟩⟩⟩
  · rintro c rfl s
    have hname := Document.refName_congr hkey hreference hname
    exact Compiler.schemaType_ref hname s
  · have htext :
        file.content.render = (File.head usage plan.runtimeModule []).render ++ body.render := by
      rw [hcontent, File.contentOf, Code.render_append]
    refine ⟨(File.head usage plan.runtimeModule []).render ++ before, after, htext.trans ?_⟩
    rw [hrender, ← String.append_assoc, ← String.append_assoc]
    rfl
  · intro hnodup declaration hmem hsame
    rw [List.inj_on_of_nodup_map hnodup hmem hdeclared hsame]

/-- A document with a component, one reference to it, and one into it. -/
def visits : Json := .object [("openapi", .string "3.0.3"),
  ("info", .object [("title", .string "Visits"), ("version", .string "1")]),
  ("paths", .object []),
  ("components", .object [("schemas", .object [
    ("Pet", .object [("type", .string "object"), ("properties", .object [
      ("owner", .object [("type", .string "string")])])]),
    ("Visit", .object [("type", .string "object"), ("properties", .object [
      ("of", .object [("$ref", .string "#/components/schemas/Pet")]),
      ("by", .object [("$ref", .string "#/components/schemas/Pet/properties/owner")])])])])])]

/-- The type of a pet is exported under the name that references to it are written as. -/
theorem generate_exportsType_visits : ∃ document plan files issued schema,
    Document.ofJson visits = .ok document ∧ Plan.ofConfig {} = .ok plan ∧ plan.targets.types = true ∧
    plan.generate document [] = (.ok files, issued) ∧
    Pointer.segments "#/components/schemas/Pet" = .ok ["components", "schemas", "Pet"] ∧
    document.spec.schemas.get? "Pet" = some schema ∧ ∃ name type, ∃ file ∈ files,
      file.path = "types.ts" ∧
        plan.ExportsReference document "#/components/schemas/Pet" name schema type file := by
  obtain ⟨document, hdocument, h⟩ := Except.eq_ok_of_any
    (show (Document.ofJson visits).toOption.any (fun document =>
      (document.spec.schemas.get? "Pet").isSome && (Plan.ofConfig {}).toOption.any fun plan =>
        plan.targets.types && (plan.generate document []).1.toOption.any fun _ => true) = true by
      decide +kernel)
  obtain ⟨hschema, h⟩ := Bool.and_eq_true_iff.1 h
  obtain ⟨schema, hschema⟩ := Option.isSome_iff_exists.1 hschema
  obtain ⟨plan, hplan, h⟩ := Except.eq_ok_of_any h
  obtain ⟨htypes, h⟩ := Bool.and_eq_true_iff.1 h
  obtain ⟨files, hfiles, _⟩ := Except.pair_eq_ok_of_any h
  have hreference :
      Pointer.segments "#/components/schemas/Pet" = .ok ["components", "schemas", "Pet"] := by
    decide +kernel
  exact ⟨document, plan, files, _, schema, hdocument, hplan, htypes, hfiles, hreference, hschema,
    generate_exportsType hdocument hplan htypes hfiles hreference hschema⟩

/-- The owner of a pet has a name in the file of types, but no type is declared under it. -/
theorem visits_owner_undeclared : ∃ document plan files issued file,
    Document.ofJson visits = .ok document ∧ Plan.ofConfig {} = .ok plan ∧
    plan.generate document [] = (.ok files, issued) ∧ file ∈ files ∧ file.path = "types.ts" ∧
    document.refName "#/components/schemas/Pet/properties/owner" = .ok "owner" ∧
    file.content.render = "// Generated by oac. Do not edit.\n\n" ++
      "export type Pet = \x7b \"owner\"?: string \x7d;\n\n" ++
      "export type Visit = \x7b \"of\"?: Pet; \"by\"?: owner \x7d;\n\n" ∧
    file.content.declaredNames = ["Pet", "Visit"] := by
  obtain ⟨document, hdocument, h⟩ := Except.eq_ok_of_any
    (show (Document.ofJson visits).toOption.any (fun document =>
      (document.refName "#/components/schemas/Pet/properties/owner").toOption.any (· == "owner") &&
      (Plan.ofConfig {}).toOption.any fun plan =>
        (plan.generate document []).1.toOption.any fun files => files.any fun file =>
          file.path == "types.ts" && (file.content.render == "// Generated by oac. Do not edit.\n\n" ++
            "export type Pet = \x7b \"owner\"?: string \x7d;\n\n" ++
            "export type Visit = \x7b \"of\"?: Pet; \"by\"?: owner \x7d;\n\n" &&
            file.content.declaredNames == ["Pet", "Visit"])) = true by decide +kernel)
  obtain ⟨hname, h⟩ := Bool.and_eq_true_iff.1 h
  obtain ⟨name, hname, howner⟩ := Except.eq_ok_of_any hname
  cases beq_iff_eq.1 howner
  obtain ⟨plan, hplan, h⟩ := Except.eq_ok_of_any h
  obtain ⟨files, hfiles, h⟩ := Except.pair_eq_ok_of_any h
  obtain ⟨file, hmem, h⟩ := List.any_eq_true.1 h
  simp only [Bool.and_eq_true, beq_iff_eq] at h
  obtain ⟨hpath, hrender, hnames⟩ := h
  exact ⟨document, plan, files, _, file, hdocument, hplan, hfiles, hmem, hpath, hname, hrender, hnames⟩

end Plan

end OpenApi

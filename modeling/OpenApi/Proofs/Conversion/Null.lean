import OpenApi.Code.Lemmas
import OpenApi.Proofs.Conversion.Answers
import OpenApi.Proofs.Document.Ends
import OpenApi.Proofs.Files.Results
import OpenApi.Proofs.Types.Parts

/-!
Conversions of values that may be null. A schema that says itself that null is allowed has a test for
null around its conversion, and a union without discriminator tells null from its other branches; so
their conversions never look into null (`convertTo_nullSafe`). An `allOf` and a union with
discriminator pass on nothing of the null that their parts and branches allow (`absentStamp_unsafe`).
-/

namespace OpenApi

/-! ## Schemas that allow null -/

namespace Document

variable {doc : Document}

/-- Null is a value of the schema's type: the schema says so, or each part of its `allOf` does, or a
branch of its union, references followed. -/
inductive AdmitsNull (doc : Document) : Schema → Prop
  | any : AdmitsNull doc (.bool true)
  | nullable {k : Keywords Schema} (h : k.isNullable = true) : AdmitsNull doc (.inline k)
  | null {k : Keywords Schema} (hcomposite : k.isComposite = false) (htype : k.type = some .null) :
      AdmitsNull doc (.inline k)
  | unconstrained {k : Keywords Schema} (h : k.isUnconstrained = true) : AdmitsNull doc (.inline k)
  | parts {k : Keywords Schema} (hall : k.allOf ≠ []) (h : ∀ part ∈ k.allOf, AdmitsNull doc part) :
      AdmitsNull doc (.inline k)
  | branch {k : Keywords Schema} {branch : Schema} (hall : k.allOf = []) (mem : branch ∈ k.unionBranches)
      (h : AdmitsNull doc branch) : AdmitsNull doc (.inline k)
  | ref {r : String} {target : Schema}
      (target_eq : doc.resolveAs r "schema" Schema.decode = .ok target) (h : AdmitsNull doc target) :
      AdmitsNull doc (.ref r)

/-- The schema is an `allOf` or a union with discriminator, references followed, and does not say itself
that null is allowed. -/
inductive LosesNull (doc : Document) : Schema → Prop
  | parts {k : Keywords Schema} (hnull : k.isNullable = false) (hall : k.allOf ≠ []) :
      LosesNull doc (.inline k)
  | tagged {k : Keywords Schema} (hnull : k.isNullable = false) (hunion : k.unionBranches ≠ [])
      (htag : k.discriminator.isSome = true) : LosesNull doc (.inline k)
  | ref {r : String} {target : Schema}
      (target_eq : doc.resolveAs r "schema" Schema.decode = .ok target) (h : LosesNull doc target) :
      LosesNull doc (.ref r)

/-- A schema object that is not put together from others says itself that null is allowed. -/
theorem AdmitsNull.plain {k : Keywords Schema} (h : doc.AdmitsNull (.inline k))
    (hcomposite : k.isComposite = false) :
    k.isNullable = true ∨ k.type = some .null ∨ k.isUnconstrained = true := by
  obtain ⟨hall, hunion⟩ := Keywords.isComposite_eq_false.1 hcomposite
  cases h with
  | nullable h => exact .inl h
  | null _ htype => exact .inr (.inl htype)
  | unconstrained h => exact .inr (.inr h)
  | parts hne => exact absurd hall hne
  | branch _ mem => exact absurd (hunion ▸ mem) List.not_mem_nil

theorem AdmitsNull.deref {x : Schema} {node : DirectSchema} (h : doc.AdmitsNull x)
    (hderef : doc.deref .schema x = .ok node) : doc.AdmitsNull node.toSchema := by
  refine deref_induction (P := fun x => doc.AdmitsNull x → doc.AdmitsNull node.toSchema)
    (fun r target htarget ih h => ih ?_) hderef id h
  cases h with
  | ref target_eq h =>
    cases target_eq.symm.trans htarget
    exact h

end Document

namespace UnionShapes

variable {doc : Document} {formats : Registry} {shapes shapes' : UnionShapes} {branch : Schema}
  {k : Keywords Schema}

/-- Null is told from the other values of the union, or nothing is told at all. -/
def PassesNull (shapes : UnionShapes) : Prop := shapes.null = true ∨ shapes.any = true

theorem addString_passesNull (h : shapes.PassesNull) (hadd : shapes.addString formats k = .ok shapes') :
    shapes'.PassesNull := by
  unfold addString at hadd
  split at hadd
  · cases hadd; exact h
  split at hadd
  · cases hadd; exact h
  · obtain ⟨format, _, hadd⟩ := Except.bind_eq_ok.1 hadd
    cases hadd; exact h

theorem addKeywords_passesNull (h : shapes.PassesNull ∨ doc.AdmitsNull (.inline k))
    (hadd : shapes.addKeywords formats branch k = .ok shapes') : shapes'.PassesNull := by
  unfold addKeywords at hadd
  split at hadd
  case isTrue => cases hadd
  case isFalse hcomposite =>
  replace h := h.imp_right fun h => h.plain (by simpa using hcomposite)
  dsimp only at hadd
  have before (htype : k.type ≠ some .null) (hfree : k.isUnconstrained = false) :
      PassesNull { shapes with null := shapes.null || k.isNullable } := by
    rcases h with h | h | h | h
    · exact h.imp_left fun h => by simp [h]
    · exact .inl (by simp [h])
    · exact absurd h htype
    · simp [h] at hfree
  have typed {type : SchemaType} (htype : k.type = some type) (hne : type ≠ .null) :
      PassesNull { shapes with null := shapes.null || k.isNullable } :=
    before (by simpa [htype] using hne) (by simp [Keywords.isUnconstrained, htype])
  split at hadd
  case h_1 htype => cases hadd; exact typed htype nofun
  case h_2 htype => cases hadd; exact typed htype nofun
  case h_3 => cases hadd; exact .inl rfl
  case h_4 htype => cases hadd; exact typed htype nofun
  case h_5 htype => cases hadd; exact typed htype nofun
  case h_6 htype => cases hadd; exact typed htype nofun
  case h_7 htype => exact addString_passesNull (typed htype nofun) hadd
  case h_8 => cases hadd
  case h_9 htype =>
    have untyped (h : k.isObjectLike = true ∨ k.items.isSome = true ∨ k.format.isSome = true) :
        PassesNull { shapes with null := shapes.null || k.isNullable } := by
      refine before (by simp [htype]) ?_
      simp only [Keywords.isUnconstrained, Keywords.isObjectLike, htype] at h ⊢
      grind
    split at hadd
    case isTrue hobject => cases hadd; exact untyped (.inl hobject)
    split at hadd
    case isTrue hitems => cases hadd; exact untyped (.inr (.inl hitems))
    split at hadd
    case isTrue hformat => exact addString_passesNull (untyped (.inr (.inr hformat))) hadd
    case isFalse => cases hadd; exact .inr rfl

theorem add_passesNull (h : shapes.PassesNull ∨ doc.AdmitsNull branch)
    (hadd : add doc formats shapes branch = .ok shapes') : shapes'.PassesNull := by
  obtain ⟨node, hnode, hadd⟩ := Except.bind_eq_ok.1 hadd
  replace h := h.imp_right fun h => h.deref hnode
  rcases node with (_ | _) | k
  · cases hadd
    exact h.resolve_right fun h => nomatch h
  · cases hadd
    exact .inr rfl
  · exact addKeywords_passesNull h hadd

/-- A branch that allows null makes the union tell null from its other values. -/
theorem foldlM_add_passesNull {branches : List Schema}
    (h : shapes.PassesNull ∨ ∃ branch ∈ branches, doc.AdmitsNull branch)
    (hadd : branches.foldlM (add doc formats) shapes = .ok shapes') : shapes'.PassesNull := by
  induction branches generalizing shapes with
  | nil =>
    cases hadd
    simpa using h
  | cons branch rest ih =>
    rw [List.foldlM_cons] at hadd
    obtain ⟨shapes₁, hfirst, hadd⟩ := Except.bind_eq_ok.1 hadd
    refine ih ?_ hadd
    rw [List.exists_mem_cons_iff, ← or_assoc] at h
    exact h.imp_left fun h => add_passesNull h hfirst

end UnionShapes

/-! ## Code that does not look into null -/

/-- A statement whose condition null fails: a test of a format, or a test of the type of the value that
is none for null. -/
inductive Code.SkipsNull (value : Code) : Code → Prop
  | instance {f : Format} {test result : Code} (test_eq : f.instanceCode? value = some test) :
      SkipsNull value (test.returnedIf result)
  | record {result : Code} : SkipsNull value (value.isRecord.returnedIf result)
  | array {result : Code} :
      SkipsNull value ((cat ["Array.isArray", value.parens]).returnedIf result)
  | type {name : String} {result : Code} (h : name ≠ "object") :
      SkipsNull value ((value.hasType name).returnedIf result)
  | strings {statements : Code} :
      SkipsNull value (cat ["if ", (value.hasType "string").parens, " ", statements.braced])

/-- The statements return null for null, or have no part in it, before they look into the value. -/
inductive Code.ReturnsNull (value : Code) : List Code → Prop
  | skip {statement : Code} {rest : List Code} (h : SkipsNull value statement)
      (more : ReturnsNull value rest) : ReturnsNull value (statement :: rest)
  | null (rest : List Code) : ReturnsNull value ((value ++ " === null").returnedIf "null" :: rest)
  | value (rest : List Code) : ReturnsNull value (value.returned :: rest)

/-- The conversion of `value` tests it for null before it looks into it, or is a call of the function of
a reference, which does so itself in whatever file it is written. -/
inductive NullSafe (d : Direction) : Compiler → Code → Code → Prop
  | tested {c : Compiler} {value converted : Code} : NullSafe d c value (Code.unlessNull value converted)
  | union {c : Compiler} {value : Code} {statements : List Code} (h : Code.ReturnsNull value statements) :
      NullSafe d c value (Code.join " " statements).immediate
  | call {c : Compiler} {value : Code} {r function : String} {target : Schema} {s s' : Progress}
      (function_eq : c.functionName d r s = .ok (function, s'))
      (target_eq : c.document.resolveAs r "schema" Schema.decode = .ok target)
      (inside : ∀ c' : Compiler, c'.document = c.document → ∀ s converted s',
        c'.convert? d target "value" s = .ok (some converted, s') → NullSafe d c' "value" converted) :
      NullSafe d c value (Code.cat [function, value.parens])

namespace Code.ReturnsNull

variable {value : Code}

theorem append {statements rest : List Code} (h : ∀ statement ∈ statements, SkipsNull value statement)
    (hrest : ReturnsNull value rest) : ReturnsNull value (statements ++ rest) := by
  induction statements with
  | nil => exact hrest
  | cons statement statements ih =>
    obtain ⟨hfirst, hmore⟩ := List.forall_mem_cons.1 h
    exact .skip hfirst (ih hmore)

end Code.ReturnsNull

namespace Compiler

variable {c : Compiler} {d : Direction} {value : Code}

theorem serializeFormats_skipNull (formats : List Format) :
    Ensures (serializeFormats value formats) fun statements =>
      ∀ statement ∈ statements, Code.SkipsNull value statement := by
  induction formats with
  | nil => exact .pure (by simp)
  | cons format rest ih =>
    unfold serializeFormats
    split
    case h_1 test htest =>
      refine .bind_any fun converted => .bind ih fun statements hstatements => .pure ?_
      exact List.forall_mem_cons.2 ⟨.instance htest, hstatements⟩
    case h_2 => exact .throw _

theorem unionInstances_skipNull (shapes : UnionShapes) :
    Ensures (unionInstances d shapes value) fun statements =>
      ∀ statement ∈ statements, Code.SkipsNull value statement := by
  cases d with
  | parse => exact .pure (by simp)
  | serialize => exact serializeFormats_skipNull _

theorem unionStrings_skipNull (shapes : UnionShapes) :
    Ensures (unionStrings d shapes value) fun statements =>
      ∀ statement ∈ statements, Code.SkipsNull value statement := by
  unfold unionStrings
  dsimp only
  cases d with
  | parse =>
    refine .bind_any fun attempts => .pure ?_
    generalize attempts ++ _ = statements
    split
    · exact List.forall_mem_nil _
    · exact List.forall_mem_singleton.2 .strings
  | serialize =>
    refine .pure ?_
    split
    · simpa using .type (by decide)
    · simp

theorem unionOthers_any {shapes : UnionShapes} :
    Ensures (unionOthers shapes value) fun last => shapes.any = true → last = value.returned := by
  unfold unionOthers
  split
  · exact .pure fun _ => rfl
  case isFalse h => exact (Ensures.any _).mono fun _ _ hany => absurd hany h

/-- The statements of a union that allows null return it. -/
theorem unionStatements_returnNull {shapes : UnionShapes} (h : shapes.PassesNull)
    (object array : Option Code) :
    Ensures (unionStatements d shapes object array value) (Code.ReturnsNull value) := by
  have given {present : Bool} {statement : Code} (h : Code.SkipsNull value statement) :
      ∀ statement' ∈ if present then [statement] else [], Code.SkipsNull value statement' := by
    cases present <;> simp [h]
  unfold unionStatements
  refine .bind (unionInstances_skipNull shapes) fun instances hinstances => ?_
  refine .bind (unionStrings_skipNull shapes) fun strings hstrings => ?_
  refine .bind unionOthers_any fun last hlast => .pure ?_
  simp only [List.append_assoc]
  -- Null falls through to the test for null, if there is one; otherwise a branch takes any value, and
  -- null falls through to the end, where the value is returned.
  refine .append hinstances (.append (given .record) (.append (given .array) ?_))
  cases hnull : shapes.null with
  | true => exact .null _
  | false =>
    have hany : shapes.any = true := h.resolve_left (by simp [hnull])
    rw [hlast hany]
    have number : Code.SkipsNull value ((value.hasType "number").returnedIf value) :=
      .type (by decide)
    have boolean : Code.SkipsNull value ((value.hasType "boolean").returnedIf value) :=
      .type (by decide)
    simp only [Bool.false_eq_true, if_false, List.nil_append]
    exact .append (given number) (.append (given boolean) (.append hstrings (.value [])))

theorem convertUnion_nullSafe {convert : Convert} {branches : List Schema}
    (h : ∃ branch ∈ branches, c.document.AdmitsNull branch) :
    Ensures (c.convertUnion d convert branches value) fun converted =>
      ∀ code ∈ converted, NullSafe d c value code := by
  refine .bind_read fun shapes hshapes => ?_
  have hnull : shapes.PassesNull := UnionShapes.foldlM_add_passesNull (.inr h) hshapes
  refine .ite (.bind (P := fun _ => False) (.throw _) fun _ h => h.elim)
    (.bind_any fun converted => ?_)
  refine .ite (.pure (by simp)) (.bind (unionStatements_returnNull hnull _ _)
    fun statements h => .pure ?_)
  rintro code ⟨⟩
  exact .union h

/-- A schema object that says itself that null is allowed is tested for null. -/
theorem convertTo_inline_nullSafe {k : Keywords Schema}
    (h : k.isNullable = false → ∀ depth convert, Ensures (c.convertKeywords d depth convert k value)
      fun converted => ∀ code ∈ converted, NullSafe d c value code) (depth : Nat) :
    Ensures (c.convertTo d depth (.inline k) value) fun converted =>
      ∀ code ∈ converted, NullSafe d c value code := by
  cases depth with
  | zero => exact nofun
  | succ depth =>
    rw [convertTo, convertWith]
    cases hnull : k.isNullable with
    | true =>
      refine .bind_any fun converted => .pure ?_
      cases converted with
      | none => simp
      | some converted => simpa using .tested
    | false => exact .bind (h hnull depth _) fun converted hconverted => .pure hconverted

theorem convertKeywords_null {k : Keywords Schema} (hcomposite : k.isComposite = false)
    (h : k.type = some .null ∨ k.isUnconstrained = true) (depth : Nat) (convert : Convert) :
    c.convertKeywords d depth convert k value = pure none := by
  obtain ⟨hall, hunion⟩ := Keywords.isComposite_eq_false.1 hcomposite
  unfold convertKeywords
  simp only [hall, hunion, List.isEmpty_nil, Bool.not_true, Bool.false_eq_true, if_false]
  rcases h with h | h
  · simp [h]
  · simp [Keywords.isUnconstrained] at h
    simp [h, Keywords.isObjectLike]

theorem convertRef_nullSafe {needed : String → Compile Bool} {r : String} {target : Schema}
    (target_eq : c.document.resolveAs r "schema" Schema.decode = .ok target)
    (inside : ∀ c' : Compiler, c'.document = c.document → ∀ s converted s',
      c'.convert? d target "value" s = .ok (some converted, s') → NullSafe d c' "value" converted) :
    Ensures (c.convertRef d needed r value) fun converted =>
      ∀ code ∈ converted, NullSafe d c value code := by
  refine .bind_any fun b => .ite ?_ (.pure (by simp))
  refine .bind (.result (c.functionName d r)) fun function ⟨_, _, hfunction⟩ => .pure ?_
  rintro code ⟨⟩
  exact .call hfunction target_eq inside

/-- The conversion of a schema that allows null does not look into null, unless the schema loses what
its parts or branches allow. -/
theorem convertTo_nullSafe {doc : Document} {schema : Schema} (hadmits : doc.AdmitsNull schema)
    (hcarries : ¬doc.LosesNull schema) (c : Compiler) (hc : c.document = doc) (d : Direction)
    (depth : Nat) (value : Code) :
    Ensures (c.convertTo d depth schema value) fun converted =>
      ∀ code ∈ converted, NullSafe d c value code := by
  -- The compiler is generalized with the rest: the function that a reference calls is written by a
  -- compiler that spells names in its own way.
  induction hadmits generalizing c depth value with
  | any =>
    cases depth with
    | zero => exact nofun
    | succ depth => exact .pure (by simp)
  | nullable h =>
    exact convertTo_inline_nullSafe (fun hnot => by simp [h] at hnot) depth
  | null hcomposite htype =>
    refine convertTo_inline_nullSafe (fun _ depth convert => ?_) depth
    rw [convertKeywords_null hcomposite (.inl htype)]
    exact .pure (by simp)
  | unconstrained h =>
    refine convertTo_inline_nullSafe (fun _ depth convert => ?_) depth
    have hcomposite := h
    simp only [Keywords.isUnconstrained] at hcomposite
    rw [convertKeywords_null (by simp_all) (.inr h)]
    exact .pure (by simp)
  | parts hall =>
    exact convertTo_inline_nullSafe (fun hnull => absurd (.parts hnull hall) hcarries) depth
  | @branch k branch hall mem h ih =>
    refine convertTo_inline_nullSafe (fun hnull depth convert => ?_) depth
    have hunion : k.unionBranches ≠ [] := List.ne_nil_of_mem mem
    have htag : k.discriminator = none := by
      by_contra h
      exact hcarries (.tagged hnull hunion (Option.isSome_iff_ne_none.2 h))
    unfold convertKeywords
    rw [if_neg (by simp [hall]), if_pos (by simpa using hunion), htag]
    exact convertUnion_nullSafe ⟨branch, mem, hc ▸ h⟩
  | ref target_eq h ih =>
    cases depth with
    | zero => exact nofun
    | succ depth =>
      refine convertRef_nullSafe (hc ▸ target_eq) fun c' hc' s converted s' hconverted => ?_
      exact ih (fun h => hcarries (.ref target_eq h)) c' (hc'.trans hc) _ "value" s _ s' hconverted
        converted rfl

end Compiler

/-- What is converted is tested for null before anything looks into it, if null is a value of the schema
and the schema does not lose it: if it says itself that null is allowed, or is a union without
discriminator, references followed. -/
theorem convert?_nullSafe {c : Compiler} {d : Direction} {schema : Schema}
    (hadmits : c.document.AdmitsNull schema) (hcarries : ¬c.document.LosesNull schema)
    {value converted : Code} {s s' : Progress}
    (hconverted : c.convert? d schema value s = .ok (some converted, s')) :
    NullSafe d c value converted :=
  Compiler.convertTo_nullSafe hadmits hcarries c rfl d _ value s _ s' hconverted converted rfl

/-- Stamps that may be missing altogether. -/
def maybeStamps : Compiler where
  document :=
    { raw := .object [("components", .object [("schemas", .object [("Stamp", .object [
        ("nullable", .bool true), ("required", .array [.string "at"]),
        ("properties", .object [("at", .object [("type", .string "string"),
          ("format", .string "date-time")])])])])])]
      spec := default }
  formats := Registry.builtin "./runtime"

def maybeStamp : Keywords Schema where
  nullable := some true
  required := ["at"]
  properties := [("at", .inline { type := some .string, format := some "date-time" })]

theorem maybeStamps_target : maybeStamps.document.resolveAs "#/components/schemas/Stamp" "schema"
    Schema.decode = .ok (.inline maybeStamp) := by with_unfolding_all rfl

theorem maybeStamps_admitsNull : maybeStamps.document.AdmitsNull (.ref "#/components/schemas/Stamp") :=
  .ref maybeStamps_target (.nullable rfl)

/-- A stamp or the number of one. -/
theorem convert?_nullSafe_maybeStamp : ∃ converted s,
    maybeStamps.convert? .parse (.inline { oneOf := [.ref "#/components/schemas/Stamp",
      .inline { type := some .number }] }) "x" {} = .ok (some converted, s) ∧
    NullSafe .parse maybeStamps "x" converted := by
  let union : Keywords Schema :=
    { oneOf := [.ref "#/components/schemas/Stamp", .inline { type := some .number }] }
  obtain ⟨⟨converted, s⟩, hconverted, hsome⟩ := Except.eq_ok_of_any
    (show (maybeStamps.convert? .parse (.inline union) "x" {}).toOption.any (·.1.isSome) = true by
      decide +kernel)
  obtain ⟨converted, rfl⟩ := Option.isSome_iff_exists.1 hsome
  refine ⟨converted, s, hconverted, convert?_nullSafe ?_ ?_ hconverted⟩
  · exact .branch rfl List.mem_cons_self maybeStamps_admitsNull
  · intro h
    cases h with
    | parts _ hall => exact hall rfl
    | tagged _ _ htag => cases htag

/-- The conversion of an `allOf` of such stamps alone looks into null. -/
theorem absentStamp_unsafe :
    let schema : Schema := .inline { allOf := [.ref "#/components/schemas/Stamp"] }
    maybeStamps.document.AdmitsNull schema ∧ ∃ type converted s s',
      maybeStamps.schemaType schema {} = .ok (type, s) ∧
      maybeStamps.convert? .parse schema "x" {} = .ok (some converted, s') ∧
      converted.render = "\x7b ...x, \"at\": new Date(x[\"at\"]) \x7d" ∧
      ¬NullSafe .parse maybeStamps "x" converted := by
  intro schema
  refine ⟨.parts nofun (by simpa using maybeStamps_admitsNull), ?_⟩
  obtain ⟨⟨type, s⟩, htype, _⟩ := Except.eq_ok_of_any
    (show (maybeStamps.schemaType schema {}).toOption.any (fun _ => true) = true by decide +kernel)
  obtain ⟨⟨converted, s'⟩, hconverted, hcode⟩ := Except.eq_ok_of_any
    (show (maybeStamps.convert? .parse schema "x" {}).toOption.any
      (fun result => result.1.any fun code =>
        code.render == "\x7b ...x, \"at\": new Date(x[\"at\"]) \x7d") = true by decide +kernel)
  obtain ⟨converted, rfl, hcode⟩ := (Option.any_eq_true _ _).1 hcode
  have hcode : converted.render = "\x7b ...x, \"at\": new Date(x[\"at\"]) \x7d" := by
    simpa using hcode
  refine ⟨type, converted, s, s', htype, hconverted, hcode, fun h => ?_⟩
  have hfirst : converted.render.toList.head? = some '\x7b' := by rw [hcode]; decide
  cases h with
  | tested => simp [Code.unlessNull] at hfirst
  | union => simp [Code.immediate] at hfirst
  | call function_eq =>
    obtain ⟨name, _, _, _, rfl⟩ := Compiler.functionName_eq_ok function_eq
    simp [Compiler.qualified, maybeStamps, Direction.verb] at hfirst

end OpenApi

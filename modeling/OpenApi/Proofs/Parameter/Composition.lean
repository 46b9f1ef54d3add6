import OpenApi.Compiler.Packing
import OpenApi.Compiler.Unpacking
import OpenApi.Proofs.Document.Depth
import OpenApi.Proofs.Files.Results
import OpenApi.Proofs.Types.Formats

/-!
Parameters whose schemas are put together from others. A value that is packed as a scalar must not have
such a schema, nor must the items of an array and the members of an object; and a string is not unpacked
by one. But an array or an object as a whole, and a number that is unpacked, may have one, and what it is
put together from is passed over (`combined_refused`, `combined_passedOver`).
-/

namespace OpenApi

/-- The step fails, wherever it starts. -/
def Compile.Refuses {α : Type} (step : Compile α) : Prop := ∀ s, ∃ e, step s = .error e

theorem Compile.Refuses.of_ensures {α : Type} {step : Compile α} (h : Ensures step fun _ => False) :
    Refuses step := by
  intro s
  rcases hs : step s with e | ⟨a, s'⟩
  · exact ⟨e, rfl⟩
  · exact (h s a s' hs).elim

namespace Keywords

variable {σ : Type}

/-- The schema without the others that it is put together from. -/
def uncombined (k : Keywords σ) : Keywords σ := { k with allOf := [], oneOf := [], anyOf := [] }

/-- The values are numbers. -/
def isNumeric (k : Keywords σ) : Bool := k.type == some .integer || k.type == some .number

theorem scalarKind?_of_isComposite {k : Keywords σ} (h : k.isComposite = true)
    (hnumeric : k.isNumeric = false) : k.scalarKind? = none := by
  unfold scalarKind?
  unfold isNumeric at hnumeric
  split <;> simp_all

theorem scalarKind?_of_isNumeric {k : Keywords σ} (h : k.isNumeric = true) :
    k.scalarKind? = some .integer ∨ k.scalarKind? = some .number := by
  rcases (Bool.or_eq_true _ _).mp h with htype | htype <;>
    simp [scalarKind?, beq_iff_eq.1 htype]

theorem scalarKind?_uncombined {k : Keywords σ} (h : k.isNumeric = true) :
    k.uncombined.scalarKind? = k.scalarKind? := by
  rcases (Bool.or_eq_true _ _).mp h with htype | htype <;>
    simp [scalarKind?, uncombined, beq_iff_eq.1 htype]

end Keywords

namespace Parameter

variable {p : Parameter} {schema : Schema}

/-- The value of the parameter is one of the schema, laid out by the style of the parameter. -/
structure IsStyled (p : Parameter) (schema : Schema) : Prop where
  isFlag : p.isFlag = false
  content : p.content = []
  schema : p.schema = some schema

/-- The parameter with another schema. -/
def withSchema (p : Parameter) (schema : Schema) : Parameter := { p with schema := some schema }

theorem IsStyled.form (h : p.IsStyled schema) : p.form = .ok (.styled schema) := by
  simp [Parameter.form, h.isFlag, h.content, h.schema]

theorem IsStyled.withSchema (h : p.IsStyled schema) (other : Schema) :
    (p.withSchema other).IsStyled other := ⟨h.isFlag, h.content, rfl⟩

end Parameter

/-! ## Shapes -/

namespace Document

variable {doc : Document} {schema : Schema} {k : Keywords Schema}

theorem shapeOf_eq (hk : doc.keywordsOf schema = .ok k) : doc.shapeOf schema =
    match k.type, k.items with
    | some .array, none => .ok (.array {})
    | some .array, some items | none, some items => ValueShape.array <$> doc.keywordsOf items
    | _, _ => .ok (if k.isObjectLike then .object k else .scalar k) := by
  unfold shapeOf
  rw [hk]
  rfl

/-- The shape of arrays hangs on the schema for their items alone. -/
theorem shapeOf_array (hk : doc.keywordsOf schema = .ok k) (harray : k.isArrayLike = true) :
    doc.shapeOf schema = match k.items with
      | none => .ok (.array {})
      | some items => ValueShape.array <$> doc.keywordsOf items := by
  rw [shapeOf_eq hk]
  unfold Keywords.isArrayLike at harray
  split at harray
  case h_1 htype => cases hitems : k.items <;> rw [htype]
  case h_2 htype =>
    obtain ⟨items, hitems⟩ := Option.isSome_iff_exists.1 harray
    rw [htype, hitems]
  case h_3 => cases harray

theorem shapeOf_other (hk : doc.keywordsOf schema = .ok k) (harray : k.isArrayLike = false) :
    doc.shapeOf schema = .ok (if k.isObjectLike then .object k else .scalar k) := by
  rw [shapeOf_eq hk]
  unfold Keywords.isArrayLike at harray
  split at harray
  case h_1 => cases harray
  case h_2 htype =>
    have hitems : k.items = none := by simpa using harray
    rw [htype, hitems]
  case h_3 type hne htype =>
    cases type with
    | array => exact absurd rfl hne
    | _ => cases k.items <;> rw [htype]

end Document

/-- A schema that a style lays out is put together from others: that of a scalar, of the items of an
array, or of a member of an object. -/
inductive ValueShape.HasCombined (doc : Document) : ValueShape → Prop
  | scalar {k : Keywords Schema} (h : k.isComposite = true) : HasCombined doc (.scalar k)
  | items {k : Keywords Schema} (h : k.isComposite = true) : HasCombined doc (.array k)
  | member {k inner : Keywords Schema} {name : String} {schema : Schema}
      (mem : (name, schema) ∈ k.properties) (inner_eq : doc.keywordsOf schema = .ok inner)
      (h : inner.isComposite = true) : HasCombined doc (.object k)

/-! ## Refusals -/

namespace Compiler

variable {c : Compiler} {p : Parameter} {schema : Schema} {k inner : Keywords Schema} {value : Code}

theorem packScalar_refuses (h : k.isComposite = true) :
    Ensures (c.packScalar k value) fun _ => False := by
  unfold packScalar
  rw [if_pos h]
  exact .bind (P := fun _ => False) (.throw _) fun _ hfalse => hfalse.elim

theorem packItems_refuses (h : k.isComposite = true) :
    Ensures (c.packItems k value) fun _ => False :=
  .bind_any fun _ => .bind (packScalar_refuses h) fun _ hfalse => hfalse.elim

theorem packMembers_refuses {required : List String} {name : String}
    {properties : List (String × Schema)} (hmem : (name, schema) ∈ properties)
    (hinner : c.document.keywordsOf schema = .ok inner) (h : inner.isComposite = true) :
    Ensures (c.packMembers required value properties) fun _ => False := by
  induction properties with
  | nil => cases hmem
  | cons property rest ih =>
    unfold packMembers
    rcases List.mem_cons.1 hmem with rfl | hmem
    · refine .bind_read fun k hk => .bind (P := fun _ => False) ?_ fun _ hfalse => hfalse.elim
      obtain rfl : inner = k := Except.ok.inj (hinner.symm.trans hk)
      exact packScalar_refuses h
    · exact .bind_any fun k => .bind_any fun packed =>
        .bind (ih hmem) fun _ hfalse => hfalse.elim

theorem packObject_refuses {name : String} (hmem : (name, schema) ∈ k.properties)
    (hinner : c.document.keywordsOf schema = .ok inner) (h : inner.isComposite = true) :
    Ensures (c.packObject k value) fun _ => False := by
  unfold packObject
  dsimp only
  rw [if_neg (by simpa using List.ne_nil_of_mem hmem)]
  exact .bind (packMembers_refuses hmem hinner h) fun _ hfalse => hfalse.elim

theorem packSimple_refuses {shape : ValueShape} (hshape : c.document.shapeOf schema = .ok shape)
    (h : shape.HasCombined c.document) (explode : Bool) :
    Ensures (c.packSimple schema explode value) fun _ => False := by
  refine .bind_read fun found hfound => ?_
  obtain rfl : shape = found := Except.ok.inj (hshape.symm.trans hfound)
  cases h with
  | scalar h => exact packScalar_refuses h
  | items h => exact packItems_refuses h
  | member hmem hinner h =>
    exact .bind (packObject_refuses hmem hinner h) fun _ hfalse => hfalse.elim

theorem packForm_refuses {shape : ValueShape} (hshape : c.document.shapeOf schema = .ok shape)
    (h : shape.HasCombined c.document) (name : String) (explode : Bool) :
    Ensures (c.packForm name schema explode value) fun _ => False := by
  refine .bind_read fun found hfound => ?_
  obtain rfl : shape = found := Except.ok.inj (hshape.symm.trans hfound)
  cases h with
  | scalar h => exact .bind (packScalar_refuses h) fun _ hfalse => hfalse.elim
  | items h =>
    refine .ite ?_ ?_
    · exact .bind_any fun item => .bind (packScalar_refuses h) fun _ hfalse => hfalse.elim
    · exact .bind (packItems_refuses h) fun _ hfalse => hfalse.elim
  | member hmem hinner h =>
    exact .bind (packObject_refuses hmem hinner h) fun _ hfalse => hfalse.elim

theorem pack_styled (hform : p.form = .ok (.styled schema)) : c.pack p value =
    match p.effectiveStyle with
    | .simple => .text <$> c.packSimple schema p.effectiveExplode value
    | .form => .pairs <$> c.packForm p.name schema p.effectiveExplode value
    | style => throw (.notImplemented (.style style p.location p.name)) := by
  unfold pack
  rw [hform]
  rfl

theorem unpack_styled (hform : p.form = .ok (.styled schema)) : c.unpack p value =
    match p.effectiveStyle with
    | .simple | .form => c.unpackScalar p schema value
    | style => throw (.notImplemented (.style style p.location p.name)) := by
  unfold unpack
  rw [hform]
  rfl

theorem unpackScalar_eq (hk : c.document.keywordsOf schema = .ok k) :
    c.unpackScalar p schema value =
      match k.scalarKind? with
      | some .integer => unpackNumber p.location p.name k true value
      | some .number => unpackNumber p.location p.name k false value
      | some .string => c.unpackString p.location p.name k value
      | none => throw (.notImplemented
          (.unpacking p.location p.name ((k.type.map SchemaType.name).getD "composite"))) := by
  unfold unpackScalar
  rw [hk]
  rfl

theorem pack_refuses (hform : p.form = .ok (.styled schema)) {shape : ValueShape}
    (hshape : c.document.shapeOf schema = .ok shape) (h : shape.HasCombined c.document) :
    (c.pack p value).Refuses := by
  refine .of_ensures ?_
  rw [pack_styled hform]
  split
  · exact .map _ (packSimple_refuses hshape h _)
  · exact .map _ (packForm_refuses hshape h _ _)
  · exact .throw _

theorem unpack_refuses (hform : p.form = .ok (.styled schema))
    (hk : c.document.keywordsOf schema = .ok k) (h : k.isComposite = true)
    (hnumeric : k.isNumeric = false) : (c.unpack p value).Refuses := by
  have hscalar : Ensures (c.unpackScalar p schema value) fun _ => False := by
    rw [unpackScalar_eq hk, Keywords.scalarKind?_of_isComposite h hnumeric]
    exact .throw _
  refine .of_ensures ?_
  rw [unpack_styled hform]
  split
  · exact hscalar
  · exact hscalar
  · exact .throw _

/-! ## What is passed over -/

/-- The shape of an array is not that of the schema as a whole, and of an object the members matter. -/
theorem shapeOf_uncombined (hk : c.document.keywordsOf schema = .ok k)
    (hlaid : k.isArrayLike = true ∨ k.isObjectLike = true) :
    c.document.shapeOf schema = c.document.shapeOf (.inline k.uncombined) ∨
      c.document.shapeOf schema = .ok (.object k) ∧
        c.document.shapeOf (.inline k.uncombined) = .ok (.object k.uncombined) := by
  have hinline : c.document.keywordsOf (.inline k.uncombined) = .ok k.uncombined := rfl
  by_cases harray : k.isArrayLike = true
  case pos =>
    have harray' : k.uncombined.isArrayLike = true := harray
    exact .inl ((Document.shapeOf_array hk harray).trans
      (Document.shapeOf_array hinline harray').symm)
  case neg =>
    have hobject := hlaid.resolve_left harray
    have harray : k.isArrayLike = false := by simpa using harray
    have harray' : k.uncombined.isArrayLike = false := harray
    have hobject' : k.uncombined.isObjectLike = true := hobject
    refine .inr ⟨?_, ?_⟩
    · rw [Document.shapeOf_other hk harray, if_pos hobject]
    · rw [Document.shapeOf_other hinline harray', if_pos hobject']

/-- What an array or an object is packed to, it is packed to without the other schemas as well. -/
theorem pack_uncombined (hstyled : p.IsStyled schema) (hk : c.document.keywordsOf schema = .ok k)
    (hlaid : k.isArrayLike = true ∨ k.isObjectLike = true) :
    c.pack p value = c.pack (p.withSchema (.inline k.uncombined)) value := by
  have hpacked : c.packSimple schema p.effectiveExplode value =
      c.packSimple (.inline k.uncombined) p.effectiveExplode value ∧
      c.packForm p.name schema p.effectiveExplode value =
        c.packForm p.name (.inline k.uncombined) p.effectiveExplode value := by
    unfold packSimple packForm
    obtain heq | ⟨heq, heq'⟩ := shapeOf_uncombined (c := c) hk hlaid
    · rw [heq]
      exact ⟨rfl, rfl⟩
    · rw [heq, heq']
      exact ⟨rfl, rfl⟩
  rw [pack_styled hstyled.form, pack_styled (hstyled.withSchema _).form, hpacked.1, hpacked.2]
  rfl

/-- So it is with the numbers that are unpacked. -/
theorem unpack_uncombined (hstyled : p.IsStyled schema) (hk : c.document.keywordsOf schema = .ok k)
    (hnumeric : k.isNumeric = true) :
    c.unpack p value = c.unpack (p.withSchema (.inline k.uncombined)) value := by
  have hinline : c.document.keywordsOf (.inline k.uncombined) = .ok k.uncombined := rfl
  have hscalar : c.unpackScalar p schema value =
      c.unpackScalar (p.withSchema (.inline k.uncombined)) (.inline k.uncombined) value := by
    rw [unpackScalar_eq hk, unpackScalar_eq hinline, Keywords.scalarKind?_uncombined hnumeric]
    obtain hkind | hkind := Keywords.scalarKind?_of_isNumeric hnumeric <;>
      · rw [hkind]
        rfl
  rw [unpack_styled hstyled.form, unpack_styled (hstyled.withSchema _).form, hscalar]
  rfl

end Compiler

/-- Packing refuses scalars whose schema is put together from others, items of arrays and members of
objects with such a schema as well; unpacking refuses all values but numbers. Arrays and objects as a
whole are packed, and numbers are unpacked, as if the other schemas were not there. -/
theorem combined_refused {c : Compiler} {p : Parameter} {schema : Schema} {k : Keywords Schema}
    (hflag : p.isFlag = false) (hcontent : p.content = []) (hschema : p.schema = some schema)
    (hk : c.document.keywordsOf schema = .ok k) (value raw : Code) :
    (k.isComposite = true → k.isArrayLike = false → k.isObjectLike = false →
      (c.pack p value).Refuses) ∧
    (k.isComposite = true → k.isNumeric = false → (c.unpack p raw).Refuses) ∧
    (k.isArrayLike = true → ∀ items ∈ k.items, ∀ inner,
      c.document.keywordsOf items = .ok inner → inner.isComposite = true →
        (c.pack p value).Refuses) ∧
    (k.isArrayLike = false → k.isObjectLike = true → ∀ name member inner,
      (name, member) ∈ k.properties → c.document.keywordsOf member = .ok inner →
        inner.isComposite = true → (c.pack p value).Refuses) ∧
    (k.isArrayLike = true ∨ k.isObjectLike = true →
      c.pack p value = c.pack (p.withSchema (.inline k.uncombined)) value) ∧
    (k.isNumeric = true →
      c.unpack p raw = c.unpack (p.withSchema (.inline k.uncombined)) raw) := by
  have hstyled : p.IsStyled schema := ⟨hflag, hcontent, hschema⟩
  refine ⟨fun h harray hobject => ?_, fun h hnumeric => ?_, fun harray items hitems inner hinner h => ?_,
    fun harray hobject name member inner hmem hinner h => ?_, Compiler.pack_uncombined hstyled hk,
    Compiler.unpack_uncombined hstyled hk⟩
  · have hshape := Document.shapeOf_other hk harray
    rw [if_neg (by simpa using hobject)] at hshape
    exact Compiler.pack_refuses hstyled.form hshape (.scalar h)
  · exact Compiler.unpack_refuses hstyled.form hk h hnumeric
  · have hshape := Document.shapeOf_array hk harray
    rw [Option.mem_def.1 hitems] at hshape
    dsimp only at hshape
    rw [hinner] at hshape
    exact Compiler.pack_refuses hstyled.form hshape (.items h)
  · have hshape := Document.shapeOf_other hk harray
    rw [if_pos hobject] at hshape
    exact Compiler.pack_refuses hstyled.form hshape (.member hmem hinner h)

/-- A query parameter with the given name and schema. -/
def Parameter.ofQuery (name : String) (k : Keywords Schema) : Parameter :=
  { name, location := .query, schema := some (.inline k) }

/-- Such a parameter is packed to pairs, by its form. -/
theorem Compiler.pack_ofQuery {c : Compiler} {name : String} {k : Keywords Schema} {value code : Code}
    {s s' : Progress} (h : c.packForm name (.inline k) true value s = .ok (code, s')) :
    c.pack (.ofQuery name k) value s = .ok (.pairs code, s') := by
  have hform : (Parameter.ofQuery name k).form = .ok (.styled (.inline k)) := rfl
  rw [pack_styled hform]
  change (Packed.pairs <$> c.packForm name (.inline k) true value) s = _
  simp only [Functor.map, StateT.map, bind, Except.bind, h, pure, Except.pure]

/-- The formats that are always there, and no components. -/
def Compiler.plain : Compiler where
  document := { raw := .object [], spec := default }
  formats := Registry.builtin "./runtime"

/-- A color that is a string and one of two others at once is neither packed nor unpacked. -/
theorem combined_refused_color :
    let k : Keywords Schema := { type := some .string, oneOf := [.bool true, .bool false] }
    let p := Parameter.ofQuery "color" k
    p.isFlag = false ∧ p.content = [] ∧ p.schema = some (.inline k) ∧
      Compiler.plain.document.keywordsOf (.inline k) = .ok k ∧
      (Compiler.plain.pack p "params.color").Refuses ∧ (Compiler.plain.unpack p "raw").Refuses := by
  intro k p
  obtain ⟨hpack, hunpack, -⟩ := combined_refused (c := Compiler.plain) (p := p) (k := k)
    rfl rfl rfl rfl "params.color" "raw"
  exact ⟨rfl, rfl, rfl, rfl, hpack rfl rfl rfl, hunpack rfl rfl⟩

/-- An integer of at least 10 is unpacked without any look at that bound, where a schema that it is put
together from sets it; and tags are packed as the strings that their items say, whatever the schemas are
that they must be one of. -/
theorem combined_passedOver :
    let count : Keywords Schema :=
      { type := some .integer, allOf := [.inline { minimum := some (.ofInt 10) }] }
    let tags : Keywords Schema :=
      { type := some .array, items := some (.inline { type := some .string }),
        oneOf := [.inline { type := some .array }, .bool false] }
    let unpacked := "((raw_0: string): number => \x7b const value_1 = Number(raw_0); " ++
      "if (raw_0.trim() === \"\" || Number.isNaN(value_1)) " ++
        "throw new Runtime.MalformedError(\"query\", \"count\", \"expected a number\"); " ++
      "if (!Number.isInteger(value_1)) " ++
        "throw new Runtime.MalformedError(\"query\", \"count\", \"expected an integer\"); " ++
      "return value_1; \x7d)(text)"
    let packed := "tags.map((item_0: any): [string, string] => [\"tags\", item_0])"
    count.isComposite = true ∧ tags.isComposite = true ∧
      (∃ code s, Compiler.plain.unpack (.ofQuery "count" count) "text" {} = .ok (code, s) ∧
        code.render = unpacked) ∧
      ∃ code s, Compiler.plain.pack (.ofQuery "tags" tags) "tags" {} = .ok (.pairs code, s) ∧
        code.render = packed := by
  intro count tags unpacked packed
  obtain ⟨⟨code, s⟩, hunpack, hcode⟩ := Except.eq_ok_of_any
    (show (Compiler.plain.unpack (.ofQuery "count" count) "text" {}).toOption.any (fun result =>
      result.1.render == unpacked) = true by decide +kernel)
  obtain ⟨⟨pairs, t⟩, hform, htags⟩ := Except.eq_ok_of_any
    (show (Compiler.plain.packForm "tags" (.inline tags) true "tags" {}).toOption.any (fun result =>
      result.1.render == packed) = true by decide +kernel)
  exact ⟨rfl, rfl, ⟨code, s, hunpack, beq_iff_eq.1 hcode⟩, pairs, t, Compiler.pack_ofQuery hform,
    beq_iff_eq.1 htags⟩

end OpenApi

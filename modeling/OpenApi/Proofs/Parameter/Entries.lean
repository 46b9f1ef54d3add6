import Mathlib.Data.Set.Finite.Basic
import OpenApi.Compiler.ParameterType
import OpenApi.Proofs.Conversion.Required
import OpenApi.Proofs.Parameter.Composition
import OpenApi.Proofs.Types.Compiled

/-!
The keys of an object that is the value of a parameter: those that its type admits, and those that are
packed. Where properties are declared these are packed and nothing else, so a key gets lost if and only
if the type admits keys beyond them (`packed_carries_iff`, `openFilter_dropped`).
-/

namespace OpenApi

namespace Document

variable {doc : Document} {schema : Schema} {k : Keywords Schema}

theorem deref_of_keywordsOf (hk : doc.keywordsOf schema = .ok k) (hobject : k.isObjectLike = true) :
    doc.deref .schema schema = .ok (.inline k) := by
  unfold keywordsOf at hk
  rcases hderef : doc.deref .schema schema with e | node <;> rw [hderef] at hk
  · cases hk
  · rcases node with (_ | _) | k' <;> cases hk
    · cases hobject
    · rfl

theorem shapeOf_object (h : doc.shapeOf schema = .ok (.object k)) :
    doc.deref .schema schema = .ok (.inline k) ∧ k.isObjectLike = true := by
  rcases hk : doc.keywordsOf schema with e | k'
  · rw [shapeOf, hk] at h
    cases h
  · by_cases harray : k'.isArrayLike = true
    · rw [shapeOf_array hk harray] at h
      split at h
      · cases h
      case h_2 items _ =>
        rcases hitems : doc.keywordsOf items with e | inner <;> rw [hitems] at h <;> cases h
    · rw [shapeOf_other hk (by simpa using harray)] at h
      by_cases hobject : k'.isObjectLike = true
      · rw [if_pos hobject] at h
        cases h
        exact ⟨deref_of_keywordsOf hk hobject, hobject⟩
      · rw [if_neg hobject] at h
        cases h

end Document

/-! ## The type -/

/-- What a type of objects says about their keys. -/
inductive ObjectForm where
  /-- the fields, and further members of the type `index`; without either any members, or none -/
  | record (fields : List Field) (index : Option Code) (isOpen : Bool)
  /-- one of some values -/
  | listed (values : List Json)

namespace ObjectForm

/-- The type as it is written. -/
def type : ObjectForm → Code
  | record fields index isOpen => Code.recordType fields index isOpen
  | listed values => Code.combined " | " (values.map fun value => Code.site value.text)

/-- There are objects of the type that have exactly these keys. -/
def Admits : ObjectForm → List String → Prop
  | record fields index isOpen, keys =>
    (∀ field ∈ fields, field.optional = false → field.name ∈ keys) ∧
      ∀ key ∈ keys, (∃ field ∈ fields, field.name = key) ∨ index.isSome = true ∨
        fields = [] ∧ isOpen = true
  | listed values, keys => ∃ members, Json.object members ∈ values ∧ keys = Members.names members

end ObjectForm

namespace Keywords

variable {k : Keywords Schema}

/-- The values that are listed, if there are any. -/
def listedValues (k : Keywords Schema) : List Json :=
  if k.enumeration.isEmpty then k.constant.toList else k.enumeration

/-- The schema for the members of an object beyond its properties. -/
def furtherSchema (k : Keywords Schema) : Schema :=
  match k.additionalProperties with
  | some (.schema schema) => schema
  | _ => .bool true

/-- No value has members beyond the properties: those that are listed have none, or if none is listed,
nothing is said about further members but that there are none. -/
def IsClosed (k : Keywords Schema) : Prop :=
  if k.isLiteral then ∀ members, Json.object members ∈ k.listedValues →
    Members.names members ⊆ Members.names k.properties
  else k.additionalProperties = none ∨ k.additionalProperties = some (.any false)

end Keywords

namespace Compiler

variable {c : Compiler} {k : Keywords Schema} {p : Parameter} {schema : Schema} {value base : Code}

/-- The field of a property in the type of an object. -/
def fieldOf (c : Compiler) (k : Keywords Schema) (property : String × Schema) : Field :=
  { name := property.1, type := c.compiledType property.2,
    optional := !k.required.contains property.1 }

/-- The type of the members that an object has beyond its properties. -/
def indexOf (c : Compiler) (k : Keywords Schema) : Option Code :=
  match k.additionalProperties with
  | some (.any true) => some "unknown"
  | some (.schema schema) => some (c.compiledType schema)
  | some (.any false) | none => none

/-- The form of the type of the objects that a schema describes. -/
def objectForm (c : Compiler) (k : Keywords Schema) : ObjectForm :=
  if k.isLiteral then .listed k.listedValues
  else .record (k.properties.map (c.fieldOf k)) (c.indexOf k) k.additionalProperties.isNone

/-- The type that is written for a schema has the given form, references followed and null apart. -/
inductive HasForm (c : Compiler) (form : ObjectForm) : Schema → Code → Prop
  | own {k : Keywords Schema} : HasForm c form (.inline k) form.type
  | nullable {k : Keywords Schema} : HasForm c form (.inline k) (form.type ++ " | null").parens
  | ref {r named : String} {target : Schema} {s s' : Progress}
      (named_eq : c.typeName r s = .ok (named, s'))
      (target_eq : c.document.resolveAs r "schema" Schema.decode = .ok target)
      (declared : ∀ s type s', c.schemaType target s = .ok (type, s') → HasForm c form target type) :
      HasForm c form (.ref r) named

theorem objectType_eq : Ensures (objectType (c.partTypes k)) fun type =>
    type = Code.recordType (k.properties.map (c.fieldOf k)) (c.indexOf k)
      k.additionalProperties.isNone := by
  have schemaType_eq (schema : Schema) : Ensures (c.schemaType schema) (· = c.compiledType schema) :=
    fun _ _ _ h => (compiledType_eq h).symm
  unfold objectType
  rw [properties_partTypes, required_partTypes, additionalProperties_partTypes, List.mapM_map]
  refine .bind (.mapM (R := fun property field => c.fieldOf k property = field) fun property _ => ?_)
    fun fields hfields => ?_
  · exact .bind (schemaType_eq property.2) fun type htype => .pure (by rw [htype]; rfl)
  · obtain rfl : k.properties.map (c.fieldOf k) = fields :=
      List.forall₂_eq_eq_eq ▸ List.forall₂_map_left_iff.2 hfields
    unfold indexOf
    rcases k.additionalProperties with _ | (_ | _) | schema
    · exact .pure rfl
    · exact .pure rfl
    · exact .pure rfl
    · refine .bind (.map some (Q := (· = some (c.compiledType schema)))
        ((schemaType_eq schema).mono fun type htype => by rw [htype])) fun index hindex => .pure ?_
      rw [hindex]
      rfl

theorem keywordsType_form (hcomposite : k.isComposite = false) (hobject : k.isObjectLike = true) :
    Ensures (c.keywordsType k (c.partTypes k)) (· = (c.objectForm k).type) := by
  unfold objectForm
  by_cases hlisted : k.isLiteral = true
  case neg =>
    rw [keywordsType_object hcomposite (by simpa using hlisted) hobject, if_neg hlisted]
    exact objectType_eq
  case pos =>
    obtain ⟨⟨hall, hone⟩, hany⟩ : (k.allOf = [] ∧ k.oneOf = []) ∧ k.anyOf = [] := by
      simpa [Keywords.isComposite] using hcomposite
    rw [if_pos hlisted]
    unfold keywordsType Keywords.listedValues
    simp only [hall, hone, hany, List.isEmpty_nil, Bool.not_true, Bool.false_eq_true, if_false]
    by_cases henum : k.enumeration.isEmpty = true
    · obtain ⟨value, hvalue⟩ : ∃ value, k.constant = some value := by
        simpa [Keywords.isLiteral, henum, Option.isSome_iff_exists] using hlisted
      simp only [henum, hvalue, Bool.not_true, Bool.false_eq_true, if_false, if_true]
      exact .pure rfl
    · simp only [henum, Bool.not_false, if_true]
      exact .pure rfl

theorem inline_hasForm (hcomposite : k.isComposite = false) (hobject : k.isObjectLike = true) :
    Ensures (c.schemaType (.inline k)) (c.HasForm (c.objectForm k) (.inline k)) := by
  rw [schemaType_inline]
  refine .bind (keywordsType_form hcomposite hobject) fun type htype => .pure ?_
  rw [htype]
  split
  · exact .nullable
  · exact .own

theorem hasForm_of_deref (hderef : c.document.deref .schema schema = .ok (.inline k))
    (hcomposite : k.isComposite = false) (hobject : k.isObjectLike = true) :
    Ensures (c.schemaType schema) (c.HasForm (c.objectForm k) schema) :=
  Document.deref_induction (P := fun schema => Ensures (c.schemaType schema)
      (c.HasForm (c.objectForm k) schema))
    (fun r _ htarget hform => (Ensures.result (c.typeName r)).bind fun _ ⟨_, _, hnamed⟩ =>
      .pure (.ref hnamed htarget hform)) hderef (inline_hasForm hcomposite hobject)

end Compiler

/-! ## The entries -/

/-- A pair of a key and a text, for a member of an object. -/
structure PackedPair where
  name : String
  /-- the text for the value of the member -/
  packed : Code
  /-- the pair is there only if the member is -/
  isTested : Bool

/-- The pair as an element of an array of pairs, where the object is `base`. -/
def PackedPair.code (base : Code) (pair : PackedPair) : Code :=
  if pair.isTested then (base.member pair.name).pairIfPresent pair.name pair.packed
  else (Code.cat [quoted pair.name, ", ", pair.packed]).brackets

/-- The keys of the pairs that there are for a member, of an object with the keys `present`. -/
def PackedPair.emitted (present : List String) (pair : PackedPair) : List String :=
  if pair.isTested && !present.contains pair.name then [] else [pair.name]

/-- The pairs that an object is packed to. -/
inductive Entries where
  /-- one for each member, where `packed` is the text for the value `entry` -/
  | all (key entry : String) (packed : Code)
  | members (pairs : List PackedPair)

namespace Entries

/-- The array of pairs as it is written, where the object is `base`. -/
def code (base : Code) : Entries → Code
  | all key entry packed => Code.cat ["Object.entries", base.parens, ".map",
      (Code.cat ["([", key, ", ", entry, "]: [string, any]): [string, string] => ",
        (Code.cat [key, ", ", packed]).brackets]).parens]
  | members pairs =>
    (Code.cat [(Code.join ", " (pairs.map (·.code base))).brackets,
      " as Array<[string, string]>"]).parens

/-- The keys that the pairs have, for an object with the keys `present`. -/
def emitted (present : List String) : Entries → List String
  | all _ _ _ => present
  | members pairs => pairs.flatMap (·.emitted present)

end Entries

/-- The packed value of an object, from the array of its pairs. -/
def Parameter.laidOut (p : Parameter) (pairs : Code) : Packed :=
  match p.effectiveStyle, p.effectiveExplode with
  | .simple, true =>
    .text (pairs ++ ".map(([key, item]) => key + \"=\" + item)").commaSeparated
  | .simple, false => .text (pairs ++ ".flat()").commaSeparated
  | _, true => .pairs pairs
  | _, false => .pairs (Code.singlePair p.name (pairs ++ ".flat()").commaSeparated)

namespace Compiler

variable {c : Compiler} {k : Keywords Schema} {p : Parameter} {schema : Schema} {value base : Code}

/-- The text for the values of a schema, of which `value` is one. -/
def PacksTo (c : Compiler) (schema : Schema) (value packed : Code) : Prop :=
  ∃ k s s', c.document.keywordsOf schema = .ok k ∧ c.packScalar k value s = .ok (packed, s')

/-- The pair is that of a property: there is a test for it unless it is required. -/
structure IsPairOf (c : Compiler) (k : Keywords Schema) (base : Code) (property : String × Schema)
    (pair : PackedPair) : Prop where
  name : pair.name = property.1
  isTested : pair.isTested = !k.required.contains property.1
  packed : c.PacksTo property.2 (base.member property.1) pair.packed

/-- The entries of the objects that a schema describes: those of its properties or, where it has none,
of all members. -/
inductive AreEntriesOf (c : Compiler) (k : Keywords Schema) (base : Code) : Entries → Prop
  | all {key entry : String} {packed : Code} (isFree : k.properties = [])
      (packs : c.PacksTo k.furtherSchema entry packed) : AreEntriesOf c k base (.all key entry packed)
  | members {pairs : List PackedPair} (isListed : k.properties ≠ [])
      (pairs_eq : List.Forall₂ (c.IsPairOf k base) k.properties pairs) :
      AreEntriesOf c k base (.members pairs)

theorem packMembers_pairs (properties : List (String × Schema)) :
    Ensures (c.packMembers k.required base properties) fun codes =>
      ∃ pairs, List.Forall₂ (c.IsPairOf k base) properties pairs ∧
        codes = pairs.map (PackedPair.code base) := by
  induction properties with
  | nil => exact .pure ⟨[], .nil, rfl⟩
  | cons property rest ih =>
    unfold packMembers
    refine .bind_read fun inner hinner => ?_
    refine (Ensures.result _).bind fun packed hpacked => ih.bind fun codes hrest => .pure ?_
    obtain ⟨s, s', hpacked⟩ := hpacked
    obtain ⟨pairs, hpairs, hcodes⟩ := hrest
    refine ⟨⟨property.1, packed, !k.required.contains property.1⟩ :: pairs,
      .cons ⟨rfl, rfl, inner, s, s', hinner, hpacked⟩ hpairs, ?_⟩
    rw [hcodes, List.map_cons]
    unfold PackedPair.code
    cases k.required.contains property.1 <;> rfl

theorem packObject_entries : Ensures (c.packObject k value) fun code =>
    ∃ entries, c.AreEntriesOf k value.parenthesized entries ∧
      code = entries.code value.parenthesized := by
  unfold packObject
  dsimp only
  refine .ite_of (fun hfree => ?_) fun hlisted => ?_
  case refine_2 =>
    refine (packMembers_pairs k.properties).bind fun codes h => .pure ?_
    obtain ⟨pairs, hpairs, hcodes⟩ := h
    exact ⟨.members pairs, .members (by simpa using hlisted) hpairs, by rw [hcodes]; rfl⟩
  case refine_1 =>
    have all {inner : Keywords Schema}
        (hinner : c.document.keywordsOf k.furtherSchema = .ok inner) :
        Ensures (do
          let key ← Compile.fresh "key"
          let entry ← Compile.fresh "entry"
          let packed ← c.packScalar inner entry
          return (Entries.all key entry packed).code value.parenthesized) fun code =>
            ∃ entries, c.AreEntriesOf k value.parenthesized entries ∧
              code = entries.code value.parenthesized := by
      refine .bind_any fun key => .bind_any fun entry => (Ensures.result _).bind
        fun packed hpacked => .pure ?_
      obtain ⟨s, s', hpacked⟩ := hpacked
      exact ⟨.all key entry packed, .all (by simpa using hfree) ⟨inner, s, s', hinner, hpacked⟩, rfl⟩
    unfold Keywords.furtherSchema at all
    generalize k.additionalProperties = further at all ⊢
    rcases further with _ | _ | schema
    · exact all rfl
    · exact all rfl
    · exact .bind_read fun inner hinner => all hinner

/-- An object is packed to its entries, by every style that there is. -/
theorem pack_object (hform : p.form = .ok (.styled schema))
    (hshape : c.document.shapeOf schema = .ok (.object k)) :
    Ensures (c.pack p value) fun packed => ∃ entries,
      c.AreEntriesOf k value.parenthesized entries ∧
        packed = p.laidOut (entries.code value.parenthesized) := by
  rw [pack_styled hform]
  unfold Parameter.laidOut
  cases p.effectiveStyle with
  | simple | form =>
    refine .map _ (.bind_read fun shape hfound => ?_)
    cases hshape.symm.trans hfound
    refine packObject_entries.bind fun code h => .pure ?_
    obtain ⟨entries, hentries, rfl⟩ := h
    refine ⟨entries, hentries, ?_⟩
    cases p.effectiveExplode <;> rfl
  | _ => exact .throw _

/-! ## What is carried -/

theorem PackedPair.mem_emitted_iff {pair : PackedPair} {keys : List String} {key : String}
    (hkey : key ∈ keys) : key ∈ pair.emitted keys ↔ pair.name = key := by
  unfold PackedPair.emitted
  split
  case isTrue h =>
    have hname : pair.name ∉ keys := by simpa using And.right (by simpa using h)
    exact iff_of_false List.not_mem_nil fun heq => hname (heq ▸ hkey)
  case isFalse => simp [eq_comm]

theorem mem_emitted_iff {entries : Entries} {keys : List String} {key : String}
    (h : c.AreEntriesOf k base entries) (hkey : key ∈ keys) :
    key ∈ entries.emitted keys ↔ k.properties = [] ∨ key ∈ Members.names k.properties := by
  cases h with
  | all isFree _ => exact iff_of_true hkey (.inl isFree)
  | members isListed hpairs =>
    have hnames : List.Forall₂ (fun property pair => key ∈ PackedPair.emitted keys pair ↔
        property.1 = key) k.properties _ := hpairs.imp fun property pair hpair => by
      rw [PackedPair.mem_emitted_iff hkey, hpair.name]
    rw [or_iff_right isListed, Entries.emitted, List.mem_flatMap, exists_mem_iff hnames]
    simp [Members.names]

/-- The fields of an object type are its properties. -/
theorem exists_fieldOf_iff {key : String} :
    (∃ field ∈ k.properties.map (c.fieldOf k), field.name = key) ↔
      key ∈ Members.names k.properties := by
  simp [Members.names, fieldOf]

theorem indexOf_isSome : (c.indexOf k).isSome = false ↔
    k.additionalProperties = none ∨ k.additionalProperties = some (.any false) := by
  unfold indexOf
  rcases k.additionalProperties with _ | (_ | _) | _ <;> simp

theorem objectForm_closed_iff (hproperties : k.properties ≠ []) :
    (∀ keys, (c.objectForm k).Admits keys → keys ⊆ Members.names k.properties) ↔ k.IsClosed := by
  unfold objectForm Keywords.IsClosed
  split
  case isTrue =>
    exact ⟨fun h members hmem => h _ ⟨members, hmem, rfl⟩,
      fun h keys ⟨members, hmem, heq⟩ => heq ▸ h members hmem⟩
  case isFalse =>
    rw [← indexOf_isSome (c := c)]
    refine ⟨fun h => ?_, fun hindex keys ⟨_, hkeys⟩ key hkey => ?_⟩
    · -- a key that no property has, besides all that they have
      obtain ⟨fresh, hfresh⟩ := Infinite.exists_notMem_finset (Members.names k.properties).toFinset
      by_contra hindex
      have hindex : (c.indexOf k).isSome = true := by simpa [Option.isSome_iff_ne_none] using hindex
      refine hfresh (List.mem_toFinset.2 (h (fresh :: Members.names k.properties) ⟨?_, ?_⟩
        List.mem_cons_self))
      · exact fun field hfield _ => List.mem_cons_of_mem _ (exists_fieldOf_iff.1 ⟨field, hfield, rfl⟩)
      · exact fun _ _ => .inr (.inl hindex)
    · obtain hfield | hsome | ⟨hnone, _⟩ := hkeys key hkey
      · exact exists_fieldOf_iff.1 hfield
      · rw [hindex] at hsome
        cases hsome
      · exact absurd (List.map_eq_nil_iff.1 hnone) hproperties

end Compiler

/-- The type that is written for the value of a parameter is that of the objects that its schema
describes, references followed, and what is packed is one entry for each property, or one for each member
if there are no properties. Of the keys that an object has those of its properties are packed, and all if
there are none. So no key that the type admits gets lost if and only if there are no properties or no
members beyond them. -/
theorem packed_carries_iff {c : Compiler} {p : Parameter} {schema : Schema} {k : Keywords Schema}
    {value type : Code} {packed : Packed} {s s' t t' : Progress} (hstyled : p.IsStyled schema)
    (hshape : c.document.shapeOf schema = .ok (.object k)) (hcomposite : k.isComposite = false)
    (htype : c.parameterType p s = .ok (type, s')) (hpacked : c.pack p value t = .ok (packed, t')) :
    c.HasForm (c.objectForm k) schema type ∧
      ∃ entries, c.AreEntriesOf k value.parenthesized entries ∧
        packed = p.laidOut (entries.code value.parenthesized) ∧
        (∀ keys, ∀ key ∈ keys, key ∈ entries.emitted keys ↔
          k.properties = [] ∨ key ∈ Members.names k.properties) ∧
        ((∀ keys, (c.objectForm k).Admits keys → keys ⊆ entries.emitted keys) ↔
          k.properties = [] ∨ k.IsClosed) := by
  obtain ⟨hderef, hobject⟩ := Document.shapeOf_object hshape
  obtain ⟨entries, hentries, heq⟩ := Compiler.pack_object hstyled.form hshape t _ t' hpacked
  have carried := fun keys key (hkey : key ∈ keys) => Compiler.mem_emitted_iff hentries hkey
  refine ⟨?_, entries, hentries, heq, carried, ?_⟩
  · refine (?_ : Ensures (c.parameterType p) _) s type s' htype
    unfold Compiler.parameterType
    rw [hstyled.form]
    exact Compiler.hasForm_of_deref hderef hcomposite hobject
  · by_cases hproperties : k.properties = []
    · exact iff_of_true (fun keys _ key hkey => (carried keys key hkey).2 (.inl hproperties))
        (.inl hproperties)
    · rw [or_iff_right hproperties, ← Compiler.objectForm_closed_iff (c := c) hproperties]
      exact forall_congr' fun keys => imp_congr_right fun _ => forall_congr' fun key =>
        imp_congr_right fun hkey => by rw [carried keys key hkey, or_iff_right hproperties]

/-- A range has a start and maybe a limit, and nothing else. -/
def range : Keywords Schema where
  type := some .object
  properties :=
    [("from", .inline { type := some .string }), ("limit", .inline { type := some .integer })]
  required := ["from"]

/-- Ranges keep all their keys. -/
theorem packed_carries_iff_range :
    let p := Parameter.ofQuery "range" range
    p.IsStyled (.inline range) ∧
      Compiler.plain.document.shapeOf (.inline range) = .ok (.object range) ∧
      range.isComposite = false ∧
      ∃ type s packed t, Compiler.plain.parameterType p {} = .ok (type, s) ∧
        type.render = "\x7b \"from\": string; \"limit\"?: number \x7d" ∧
        Compiler.plain.pack p "range" {} = .ok (packed, t) ∧
        ∃ entries, Compiler.plain.AreEntriesOf range (Code.parenthesized "range") entries ∧
          packed = p.laidOut (entries.code (Code.parenthesized "range")) ∧
          ∀ keys, (Compiler.plain.objectForm range).Admits keys → keys ⊆ entries.emitted keys := by
  intro p
  have hstyled : p.IsStyled (.inline range) := ⟨rfl, rfl, rfl⟩
  obtain ⟨⟨type, s⟩, htype, hrender⟩ := Except.eq_ok_of_any
    (show (Compiler.plain.parameterType p {}).toOption.any (fun result =>
      result.1.render == "\x7b \"from\": string; \"limit\"?: number \x7d") = true by decide +kernel)
  obtain ⟨⟨packed, t⟩, hpacked, _⟩ := Except.eq_ok_of_any
    (show (Compiler.plain.pack p "range" {}).toOption.any (fun _ => true) = true by decide +kernel)
  obtain ⟨_, entries, hentries, heq, _, hcarried⟩ :=
    packed_carries_iff hstyled rfl rfl htype hpacked
  exact ⟨hstyled, rfl, rfl, type, s, packed, t, htype, beq_iff_eq.1 hrender, hpacked, entries,
    hentries, heq, hcarried.2 (.inr (.inl rfl))⟩

/-- A filter may have a status, and any other members. -/
def openFilter : Keywords Schema where
  type := some .object
  properties := [("status", .inline { type := some .string })]
  additionalProperties := some (.any true)

/-- The type of filters admits an owner besides the status, and only the status is packed. -/
theorem openFilter_dropped :
    let p := Parameter.ofQuery "filter" openFilter
    let written := "([...(filter[\"status\"] !== undefined ? " ++
      "[[\"status\", filter[\"status\"]]] : [])] as Array<[string, string]>)"
    (∃ type s, Compiler.plain.parameterType p {} = .ok (type, s) ∧
      type.render = "\x7b \"status\"?: string; [key: string]: unknown \x7d" ∧
      Compiler.plain.HasForm (Compiler.plain.objectForm openFilter) (.inline openFilter) type) ∧
    (Compiler.plain.objectForm openFilter).Admits ["status", "owner"] ∧
    ∃ pairs t entries, Compiler.plain.pack p "filter" {} = .ok (.pairs pairs, t) ∧
      pairs.render = written ∧ pairs = entries.code (Code.parenthesized "filter") ∧
      Compiler.plain.AreEntriesOf openFilter (Code.parenthesized "filter") entries ∧
      "owner" ∉ entries.emitted ["status", "owner"] := by
  intro p written
  have hstyled : p.IsStyled (.inline openFilter) := ⟨rfl, rfl, rfl⟩
  obtain ⟨⟨type, s⟩, htype, hrender⟩ := Except.eq_ok_of_any
    (show (Compiler.plain.parameterType p {}).toOption.any (fun result =>
      result.1.render == "\x7b \"status\"?: string; [key: string]: unknown \x7d") = true by
        decide +kernel)
  obtain ⟨⟨pairs, t⟩, hpairs, hwritten⟩ := Except.eq_ok_of_any
    (show (Compiler.plain.packForm "filter" (.inline openFilter) true "filter" {}).toOption.any
      (fun result => result.1.render == written) = true by decide +kernel)
  have hpacked := Compiler.pack_ofQuery hpairs
  obtain ⟨entries, hentries, heq⟩ := Compiler.pack_object hstyled.form rfl _ _ _ hpacked
  obtain rfl : pairs = entries.code (Code.parenthesized "filter") := Packed.pairs.inj heq
  have hform := Compiler.inline_hasForm (c := Compiler.plain) (k := openFilter) rfl rfl _ _ _ htype
  refine ⟨⟨type, s, htype, beq_iff_eq.1 hrender, hform⟩, ⟨?_, ?_⟩,
    entries.code (Code.parenthesized "filter"), t, entries, hpacked, beq_iff_eq.1 hwritten, rfl,
    hentries, ?_⟩
  · exact fun field hfield hdemanded => by cases List.mem_singleton.1 hfield; cases hdemanded
  · exact fun _ _ => .inr (.inl rfl)
  · intro hmem
    obtain hnone | hname := (Compiler.mem_emitted_iff hentries (by simp)).1 hmem
    · cases hnone
    · simp [openFilter, Members.names] at hname

end OpenApi

import OpenApi.Proofs.Document.Distinct
import OpenApi.Proofs.Document.Flattening

/-!
What a merge makes of the schema objects that it takes in. The object schema of an `allOf` has the
properties of all of them in the order of their names, each as the last of them declares it, requires
what any of them requires, and says on further members what the last one says that says anything
(`mergeAllOf_isMerged`).
-/

namespace OpenApi

/-- The schema object declares the property. Of several entries under one name the last counts. -/
def Keywords.DeclaresProperty {σ : Type} (k : Keywords σ) (name : String) (schema : σ) : Prop :=
  Members.IsLast k.properties name schema

/-- The schema object is the object schema that the schema objects amount to, where the later ones
go before the earlier ones. -/
structure IsMerged (objects : List (Keywords Schema)) (merged : Keywords Schema) : Prop where
  names : Members.names merged.properties =
    (objects.flatMap fun k => Members.names k.properties).eraseDups
  property : ∀ name schema, Members.get? merged.properties name = some schema ↔
    ∃ earlier k later, objects = earlier ++ k :: later ∧ k.DeclaresProperty name schema ∧
      ∀ k' ∈ later, name ∉ Members.names k'.properties
  required : merged.required = (objects.flatMap (·.required)).eraseDups
  further : merged.additionalProperties = (objects.filterMap (·.additionalProperties)).getLast?
  others : merged = {
    type := some .object
    properties := merged.properties
    required := merged.required
    additionalProperties := merged.additionalProperties }

namespace Merge

variable {objects : List (Keywords Schema)}

theorem isMerged_nil : IsMerged [] { type := some .object } where
  names := rfl
  property := by simp [Members.get?]
  required := rfl
  further := rfl
  others := rfl

/-- A schema object goes over what those before it amount to. -/
theorem isMerged_concat {merged k : Keywords Schema} (h : IsMerged objects merged) :
    IsMerged (objects ++ [k]) (extended merged k) where
  names := by
    rw [List.flatMap_append, List.flatMap_singleton]
    exact Members.names_foldl_put k.properties h.names
  property name schema := by
    show Members.get? (k.properties.foldl _ merged.properties) name = some schema ↔ _
    rw [Members.get?_foldl_put_eq_some, h.property]
    constructor
    · rintro (hlast | ⟨hnew, earlier, k', later, rfl, hk', hlater⟩)
      · exact ⟨objects, k, [], rfl, hlast, by simp⟩
      · refine ⟨earlier, k', later ++ [k], by simp, hk', ?_⟩
        simpa [or_imp, forall_and] using ⟨hlater, hnew⟩
    · rintro ⟨earlier, k', later, heq, hk', hlater⟩
      rcases List.eq_nil_or_concat later with rfl | ⟨later, last, rfl⟩
      · obtain ⟨rfl, hlast⟩ := List.append_inj' heq rfl
        cases hlast
        exact .inl hk'
      · rw [List.concat_eq_append, ← List.cons_append, ← List.append_assoc] at heq
        obtain ⟨rfl, hlast⟩ := List.append_inj' heq rfl
        cases hlast
        refine .inr ⟨hlater k (by simp), earlier, k', later, rfl, hk', fun k'' hk'' => ?_⟩
        exact hlater k'' (by simp [hk''])
  required := by
    show k.required.foldl _ merged.required = _
    rw [h.required, List.foldl_addNew, List.flatMap_append, List.flatMap_singleton]
  further := by
    show (k.additionalProperties <|> merged.additionalProperties) = _
    rw [h.further, List.filterMap_append]
    cases hk : k.additionalProperties with
    | none => simp [hk]
    | some additional => simp [hk]
  others := by
    conv_lhs => rw [h.others]
    rfl

theorem isMerged_foldl (objects : List (Keywords Schema)) :
    IsMerged objects (objects.foldl extended { type := some .object }) := by
  induction objects using List.reverseRecOn with
  | nil => exact isMerged_nil
  | append_singleton objects k ih =>
    rw [List.foldl_append, List.foldl_cons, List.foldl_nil]
    exact isMerged_concat ih

end Merge

namespace Document

variable {doc : Document}

/-- The parts of an `allOf` amount to one list of schema objects only. -/
theorem Flattens.unique {parts : List Schema} {objects objects' : List (Keywords Schema)}
    (h : doc.Flattens parts objects) (h' : doc.Flattens parts objects') : objects = objects' := by
  induction h generalizing objects' with
  | nil => cases h'; rfl
  | any target _ ih =>
    cases h' with
    | any _ more => exact ih more
    | object target' => cases target.symm.trans target'
  | object target _ _ _ ih ih' =>
    cases h' with
    | any target' => cases target.symm.trans target'
    | object target' _ inside more =>
      cases target.symm.trans target'
      rw [ih inside, ih' more]

/-- The object schema of an `allOf` is what the flat list of its parts and the schema itself amount to,
and there is only one such list. -/
theorem mergeAllOf_isMerged {depth : Nat} {k merged : Keywords Schema}
    (h : doc.mergeAllOf depth k = .ok merged) : ∃ parts,
      (∀ objects, doc.Flattens k.allOf objects ↔ objects = parts) ∧
        IsMerged (parts ++ [k]) merged := by
  obtain ⟨parts, hparts, rfl⟩ := mergeAllOf_flattens h
  refine ⟨parts, fun objects => ⟨fun h => h.unique hparts, fun h => h ▸ hparts⟩, ?_⟩
  exact Merge.isMerged_foldl (parts ++ [k])

/-- Pets are animals with an owner. -/
def petShop : Document where
  raw := .object [("components", .object [("schemas", .object [
    ("Animal", .object [
      ("properties", .object [("name", .object [("type", .string "string")]),
        ("age", .object [("type", .string "integer")])]),
      ("required", .array [.string "name"]),
      ("additionalProperties", .bool true)]),
    ("Pet", .object [
      ("allOf", .array [.object [("$ref", .string "#/components/schemas/Animal")], .bool true]),
      ("properties", .object [("owner", .object [("type", .string "string")])]),
      ("required", .array [.string "owner", .string "name"])])])])]
  spec := default

/-- A dog is a pet whose age is a number of its own. -/
def dog : Keywords Schema where
  allOf := [.ref "#/components/schemas/Pet",
    .inline { properties := [("age", .inline { type := some .number })] }]
  properties := [("breed", .inline { type := some .string })]
  required := ["age", "owner"]
  minLength := some 3

/-- The age comes second, as the animals have it, and is the number that is declared last. -/
theorem mergeAllOf_isMerged_dog : ∃ merged parts, petShop.mergeAllOf 3 dog = .ok merged ∧
    merged.properties.map (·.1) = ["name", "age", "owner", "breed"] ∧
    Members.get? merged.properties "age" = some (.inline { type := some .number }) ∧
    merged.required = ["name", "owner", "age"] ∧ merged.minLength = none ∧
    (∀ objects, petShop.Flattens dog.allOf objects ↔ objects = parts) ∧
    IsMerged (parts ++ [dog]) merged := by
  have merges : petShop.mergeAllOf 3 dog = .ok {
      type := some .object
      properties := [("name", .inline { type := some .string }),
        ("age", .inline { type := some .number }), ("owner", .inline { type := some .string }),
        ("breed", .inline { type := some .string })]
      required := ["name", "owner", "age"]
      additionalProperties := some (.any true) } := rfl
  obtain ⟨parts, hparts, hmerged⟩ := mergeAllOf_isMerged merges
  exact ⟨_, parts, merges, rfl, rfl, rfl, rfl, hparts, hmerged⟩

end Document

end OpenApi

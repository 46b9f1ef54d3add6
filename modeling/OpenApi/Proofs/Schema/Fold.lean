import OpenApi.Proofs.Schema.Parts
import OpenApi.Schema.Fold

/-!
What a fold hands on: the values of the schemas inside, each in the place of its schema.
-/

namespace OpenApi.Schema

variable {τ : Type} {ref : String → τ} {bool : Bool → τ}
  {inline : Keywords Schema → Keywords τ → τ} (k : Keywords Schema)

theorem foldItems_eq (schemas : List Schema) :
    foldItems ref bool inline schemas = schemas.map (fold ref bool inline) := by
  induction schemas with
  | nil => rfl
  | cons schema rest ih => rw [foldItems, ih, List.map_cons]

theorem foldMembers_eq (members : List (String × Schema)) :
    foldMembers ref bool inline members =
      members.map fun (name, schema) => (name, fold ref bool inline schema) := by
  induction members with
  | nil => rfl
  | cons member rest ih => rw [foldMembers, ih, List.map_cons]

@[simp] theorem properties_foldKeywords : (foldKeywords ref bool inline k).properties =
    k.properties.map fun (name, schema) => (name, fold ref bool inline schema) := by
  cases k
  exact foldMembers_eq _

@[simp] theorem additionalProperties_foldKeywords :
    (foldKeywords ref bool inline k).additionalProperties =
      foldAdditional ref bool inline k.additionalProperties := by
  cases k
  rfl

@[simp] theorem items_foldKeywords :
    (foldKeywords ref bool inline k).items = k.items.map (fold ref bool inline) := by
  cases k with
  | mk _ _ _ _ _ _ _ _ items => cases items <;> rfl

@[simp] theorem allOf_foldKeywords :
    (foldKeywords ref bool inline k).allOf = k.allOf.map (fold ref bool inline) := by
  cases k
  exact foldItems_eq _

@[simp] theorem oneOf_foldKeywords :
    (foldKeywords ref bool inline k).oneOf = k.oneOf.map (fold ref bool inline) := by
  cases k
  exact foldItems_eq _

@[simp] theorem anyOf_foldKeywords :
    (foldKeywords ref bool inline k).anyOf = k.anyOf.map (fold ref bool inline) := by
  cases k
  exact foldItems_eq _

@[simp] theorem furtherSchemas_foldKeywords : (foldKeywords ref bool inline k).furtherSchemas =
    k.furtherSchemas.map (fold ref bool inline) := by
  cases k with
  | mk _ _ _ _ _ _ _ additionalProperties =>
    rcases additionalProperties with _ | _ | schema <;> rfl

@[simp] theorem memberSchemas_foldKeywords : (foldKeywords ref bool inline k).memberSchemas =
    k.memberSchemas.map (fold ref bool inline) := by
  simp [Keywords.memberSchemas]

/-- The values right inside are those of the schemas right inside. -/
theorem children_foldKeywords :
    (foldKeywords ref bool inline k).children = k.children.map (fold ref bool inline) := by
  simp [Keywords.children, Option.toList_map]

/-- What holds of the values of references and booleans, and is kept by schema objects, holds of the
values of all schemas. -/
theorem fold_preserves {motive : τ → Prop} (href : ∀ target, motive (ref target))
    (hbool : ∀ accepts, motive (bool accepts))
    (hinline : ∀ (k : Keywords Schema) (parts : Keywords τ), (∀ x ∈ parts.children, motive x) →
      motive (inline k parts)) (schema : Schema) : motive (fold ref bool inline schema) := by
  induction schema using Schema.induction with
  | ref target => exact href target
  | bool accepts => exact hbool accepts
  | inline k ih =>
    refine hinline k _ fun x hx => ?_
    rw [children_foldKeywords] at hx
    obtain ⟨schema, hschema, rfl⟩ := List.mem_map.1 hx
    exact ih schema hschema

/-- The references in a schema, with those that the tags of its unions lead to. -/
def references : Schema → List String :=
  fold (fun target => [target]) (fun _ => []) fun k parts => parts.children.flatten ++ k.mapped

theorem references_inline (k : Keywords Schema) :
    references (.inline k) = k.children.flatMap references ++ k.mapped := by
  show (foldKeywords _ _ _ k).children.flatten ++ k.mapped = _
  rw [children_foldKeywords, List.flatMap]
  rfl

theorem mem_references {r : String} {schema : Schema} :
    r ∈ schema.references ↔ Part (.ref r) schema := by
  induction schema using Schema.induction with
  | ref target =>
    constructor
    · intro h
      rw [List.mem_singleton.1 h]
      exact .refl
    · intro h
      cases h
      exact List.mem_singleton_self r
  | bool accepts => exact iff_of_false List.not_mem_nil nofun
  | inline k ih =>
    rw [references_inline, List.mem_append, List.mem_flatMap]
    constructor
    · rintro (⟨x, hx, h⟩ | h)
      · exact .child hx ((ih x hx).1 h)
      · exact .mapped h rfl
    · intro h
      cases h with
      | child mem h => exact .inl ⟨_, mem, (ih _ mem).2 h⟩
      | mapped mem heq => cases heq; exact .inr mem

end OpenApi.Schema

import Mathlib.Data.Set.Finite.Lattice
import OpenApi.Compiler.Conversion

/-!
The schemas inside a schema. A schema object has its children, and `Schema.Part` is the closure of
that, where the references that a discriminator leads to count as well.
-/

namespace OpenApi

namespace Keywords

variable {σ : Type}

/-- The schema of further members, if there is one. -/
def furtherSchemas (k : Keywords σ) : List σ :=
  match k.additionalProperties with
  | some (.schema schema) => [schema]
  | _ => []

/-- The schemas of the members of an object, that of further members last. -/
def memberSchemas (k : Keywords σ) : List σ := k.properties.map (·.2) ++ k.furtherSchemas

/-- All schemas right inside. -/
def children (k : Keywords σ) : List σ :=
  k.memberSchemas ++ k.items.toList ++ k.allOf ++ k.oneOf ++ k.anyOf

/-- The references that the tags of a union lead to. -/
def mapped (k : Keywords σ) : List String :=
  match k.discriminator with
  | none => []
  | some discriminator => discriminator.mapping.map fun entry => Compiler.mappedReference entry.2

variable {k : Keywords σ} {x : σ}

theorem mem_children : x ∈ k.children ↔
    x ∈ k.memberSchemas ∨ x ∈ k.items ∨ x ∈ k.allOf ∨ x ∈ k.oneOf ∨ x ∈ k.anyOf := by
  simp [children]

theorem mem_memberSchemas : x ∈ k.memberSchemas ↔
    (∃ name, (name, x) ∈ k.properties) ∨ k.additionalProperties = some (.schema x) := by
  unfold memberSchemas furtherSchemas
  rw [List.mem_append]
  refine or_congr (by simp) ?_
  rcases k.additionalProperties with _ | _ | schema <;> simp [eq_comm]

theorem allOf_subset_children : k.allOf ⊆ k.children := fun _ hx =>
  mem_children.2 (.inr (.inr (.inl hx)))

theorem union_subset_children {branches : List σ} (h : branches ∈ [k.oneOf, k.anyOf]) :
    branches ⊆ k.children := by
  intro x hx
  rcases List.mem_pair.1 h with rfl | rfl
  · exact mem_children.2 (.inr (.inr (.inr (.inl hx))))
  · exact mem_children.2 (.inr (.inr (.inr (.inr hx))))

theorem unionBranches_subset : k.unionBranches ⊆ k.children := by
  intro x hx
  unfold unionBranches at hx
  split at hx
  · exact mem_children.2 (.inr (.inr (.inr (.inr hx))))
  · exact mem_children.2 (.inr (.inr (.inr (.inl hx))))

theorem sizeOf_lt_of_mem_children {k : Keywords Schema} {x : Schema} (h : x ∈ k.children) :
    sizeOf x < sizeOf (Schema.inline k) := by
  obtain ⟨type, format, title, description, nullable, properties, required, additionalProperties,
    items, allOf, oneOf, anyOf, discriminator, enumeration, constant, minimum, maximum,
    exclusiveMinimum, exclusiveMaximum, multipleOf, minLength, maxLength, pattern⟩ := k
  simp only [Schema.inline.sizeOf_spec, Keywords.mk.sizeOf_spec]
  rcases mem_children.1 h with h | h | h | h | h
  · rcases mem_memberSchemas.1 h with ⟨name, h⟩ | h
    · have := List.sizeOf_lt_of_mem h
      simp only [Prod.mk.sizeOf_spec] at this
      omega
    · cases h
      simp only [Option.some.sizeOf_spec, Additional.schema.sizeOf_spec]
      omega
  · cases h
    simp only [Option.some.sizeOf_spec]
    omega
  · have : sizeOf x < sizeOf allOf := List.sizeOf_lt_of_mem h
    omega
  · have : sizeOf x < sizeOf oneOf := List.sizeOf_lt_of_mem h
    omega
  · have : sizeOf x < sizeOf anyOf := List.sizeOf_lt_of_mem h
    omega

end Keywords

namespace Schema

/-- Induction on schemas: a schema object has its children as parts. -/
@[elab_as_elim]
theorem induction {motive : Schema → Prop} (ref : ∀ target, motive (.ref target))
    (bool : ∀ accepts, motive (.bool accepts))
    (inline : ∀ k : Keywords Schema, (∀ x ∈ k.children, motive x) → motive (.inline k)) :
    ∀ schema, motive schema
  | .ref target => ref target
  | .bool accepts => bool accepts
  | .inline k => inline k fun x _ => induction ref bool inline x
termination_by schema => sizeOf schema
decreasing_by exact Keywords.sizeOf_lt_of_mem_children ‹_›

/-- The first schema stands in the second, or is the second. -/
inductive Part (x : Schema) : Schema → Prop
  | refl : Part x x
  | child {k : Keywords Schema} {y : Schema} (mem : y ∈ k.children) (h : Part x y) :
      Part x (.inline k)
  | mapped {k : Keywords Schema} {r : String} (mem : r ∈ k.mapped) (h : x = .ref r) :
      Part x (.inline k)

namespace Part

variable {x y z : Schema}

theorem trans (h : Part x y) (h' : Part y z) : Part x z := by
  induction h' with
  | refl => exact h
  | child mem _ ih => exact .child mem ih
  | mapped mem hy =>
    subst hy
    cases h with
    | refl => exact .mapped mem rfl

/-- A schema has finitely many parts. -/
theorem finite (y : Schema) : {x | Part x y}.Finite := by
  induction y using Schema.induction with
  | ref target =>
    refine (Set.finite_singleton (Schema.ref target)).subset fun x h => ?_
    cases h
    rfl
  | bool accepts =>
    refine (Set.finite_singleton (Schema.bool accepts)).subset fun x h => ?_
    cases h
    rfl
  | inline k ih =>
    have hchildren : (⋃ y ∈ {y | y ∈ k.children}, {x | Part x y}).Finite :=
      Set.Finite.biUnion (List.finite_toSet k.children) ih
    have hmapped : {x | x ∈ k.mapped.map Schema.ref}.Finite := List.finite_toSet _
    refine ((Set.finite_singleton (Schema.inline k)).union (hchildren.union hmapped)).subset ?_
    intro x h
    cases h with
    | refl => exact .inl rfl
    | child mem h => exact .inr (.inl (Set.mem_biUnion mem h))
    | mapped mem hx => exact .inr (.inr (by simpa [hx] using mem))

end Part

end Schema

end OpenApi

import OpenApi.Compiler.TypeExpression
import OpenApi.Proofs.Schema.Fold

/-!
The type of a schema object is put together from the types of the schemas inside, each in the place
of its schema.
-/

namespace OpenApi

theorem Keywords.isComposite_eq_false {σ : Type} {k : Keywords σ} :
    k.isComposite = false ↔ k.allOf = [] ∧ k.unionBranches = [] := by
  unfold isComposite unionBranches
  split <;> simp_all

namespace Compiler

variable {c : Compiler} {k : Keywords Schema}

/-- The types of the schemas inside, in their places. -/
def partTypes (c : Compiler) : Keywords Schema → Keywords (Compile Code) :=
  Schema.foldKeywords (fun target => return (← c.typeName target : String))
    (fun accepts => pure (if accepts then "unknown" else "never"))
    (fun k parts => do
      let type ← c.keywordsType k parts
      pure (if k.isNullable then (type ++ " | null").parens else type))

theorem schemaType_inline : c.schemaType (.inline k) = (do
    let type ← c.keywordsType k (c.partTypes k)
    Pure.pure (if k.isNullable then (type ++ " | null").parens else type)) := rfl

@[simp] theorem allOf_partTypes : (c.partTypes k).allOf = k.allOf.map c.schemaType :=
  Schema.allOf_foldKeywords k

@[simp] theorem oneOf_partTypes : (c.partTypes k).oneOf = k.oneOf.map c.schemaType :=
  Schema.oneOf_foldKeywords k

@[simp] theorem anyOf_partTypes : (c.partTypes k).anyOf = k.anyOf.map c.schemaType :=
  Schema.anyOf_foldKeywords k

@[simp] theorem items_partTypes : (c.partTypes k).items = k.items.map c.schemaType :=
  Schema.items_foldKeywords k

@[simp] theorem properties_partTypes : (c.partTypes k).properties =
    k.properties.map fun (name, schema) => (name, c.schemaType schema) :=
  Schema.properties_foldKeywords k

@[simp] theorem required_partTypes : (c.partTypes k).required = k.required := by
  cases k
  rfl

@[simp] theorem additionalProperties_partTypes : (c.partTypes k).additionalProperties =
    match k.additionalProperties with
    | none => none
    | some (.any allowed) => some (.any allowed)
    | some (.schema schema) => some (.schema (c.schemaType schema)) := by
  refine (Schema.additionalProperties_foldKeywords k).trans ?_
  rcases k.additionalProperties with _ | _ | _ <;> rfl

/-- The type for keywords is that of a composition, of listed values, or one that the keyword `type`
says or the others suggest. -/
theorem keywordsType_cases {motive : Compile Code → Prop} {parts : Keywords (Compile Code)}
    (all : motive (do
      let members ← parts.allOf.mapM id
      let own ← if k.properties.isEmpty && k.additionalProperties.isNone then pure []
        else (fun type => [type]) <$> objectType parts
      return Code.combined " & " (members ++ own)))
    (union : ∀ branches ∈ [parts.oneOf, parts.anyOf],
      motive (do return Code.combined " | " (← branches.mapM id)))
    (listed : motive (pure (Code.combined " | "
      (k.enumeration.map fun value => Code.site value.text))))
    (constant : ∀ value : Json, motive (pure (Code.site value.text)))
    (word : ∀ text ∈ ["null", "boolean", "number", "unknown"], motive (pure (Code.site text)))
    (string : motive (c.stringType k)) (array : motive (arrayType parts.items))
    (object : motive (objectType parts)) (unknown : ∀ e, motive (throw e)) :
    motive (c.keywordsType k parts) := by
  unfold keywordsType
  split
  · exact all
  split
  · exact union _ (by simp)
  split
  · exact union _ (by simp)
  split
  · exact listed
  split
  · exact constant _
  split
  case h_5 => exact string
  case h_6 => exact array
  case h_7 => exact object
  case h_8 => exact unknown _
  case h_9 =>
    split
    · exact object
    split
    · exact array
    split
    · exact string
    · exact word _ (by simp)
  all_goals exact word _ (by simp)

/-- Where nothing is put together and no values are listed, an object has the type of objects. -/
theorem keywordsType_object {parts : Keywords (Compile Code)} (hcomposite : k.isComposite = false)
    (hlisted : k.isLiteral = false) (hobject : k.isObjectLike = true) :
    c.keywordsType k parts = objectType parts := by
  obtain ⟨⟨hall, hone⟩, hany⟩ : (k.allOf = [] ∧ k.oneOf = []) ∧ k.anyOf = [] := by
    simpa [Keywords.isComposite] using hcomposite
  obtain ⟨henum, hconst⟩ : k.enumeration = [] ∧ k.constant = none := by
    simpa [Keywords.isLiteral] using hlisted
  unfold keywordsType
  simp only [hall, hone, hany, henum, hconst, List.isEmpty_nil, Bool.not_true, Bool.false_eq_true,
    if_false]
  cases htype : k.type with
  | none => simp [hobject]
  | some type =>
    simp only [Keywords.isObjectLike, htype] at hobject
    cases type <;> simp at hobject ⊢

end Compiler

end OpenApi

import OpenApi.Schema.Keywords

/-!
Folding a schema: a value for every schema, computed from the values of the schemas inside it.
-/

namespace OpenApi

namespace Schema

variable {τ : Type} (ref : String → τ) (bool : Bool → τ)
  (inline : Keywords Schema → Keywords τ → τ)

mutual

/-- The value of a schema. An object has the values of the schemas inside it in their places. -/
def fold : Schema → τ
  | .ref target => ref target
  | .bool accepts => bool accepts
  | .inline keywords => inline keywords (foldKeywords keywords)

/-- The keywords with the values of the schemas inside. -/
def foldKeywords : Keywords Schema → Keywords τ
  | { type, format, title, description, nullable, properties, required, additionalProperties,
      items, allOf, oneOf, anyOf, discriminator, enumeration, constant, minimum, maximum,
      exclusiveMinimum, exclusiveMaximum, multipleOf, minLength, maxLength, pattern } =>
    { type, format, title, description, nullable
      properties := foldMembers properties
      required
      additionalProperties := foldAdditional additionalProperties
      items := foldOptional items
      allOf := foldItems allOf
      oneOf := foldItems oneOf
      anyOf := foldItems anyOf
      discriminator, enumeration, constant, minimum, maximum, exclusiveMinimum, exclusiveMaximum
      multipleOf, minLength, maxLength, pattern }

/-- The value of the schema of `additionalProperties`. -/
def foldAdditional : Option (Additional Schema) → Option (Additional τ)
  | none => none
  | some (.any allowed) => some (.any allowed)
  | some (.schema schema) => some (.schema (fold schema))

/-- The value of a schema, if it is given. -/
def foldOptional : Option Schema → Option τ
  | none => none
  | some schema => some (fold schema)

/-- The values of schemas under names. -/
def foldMembers : List (String × Schema) → List (String × τ)
  | [] => []
  | (name, schema) :: rest => (name, fold schema) :: foldMembers rest

/-- The values of schemas one after the other. -/
def foldItems : List Schema → List τ
  | [] => []
  | schema :: rest => fold schema :: foldItems rest

end

end Schema

end OpenApi

import OpenApi.Json.Decode
import OpenApi.Schema.Keywords
import OpenApi.Text.Natural

/-!
Reading schemas. An object with a string under `$ref` is a reference, whatever else it holds; any
other object has to be right in every keyword, at every depth, or it is no schema at all. A list
stands for an object if it has a value for every keyword, in the order of the keywords.
-/

namespace OpenApi.Schema

/-! ## The values of keywords -/

/-- An optional keyword: null is as good as absence. -/
def optional? {α : Type} (read : Json → Option α) : Json → Option (Option α)
  | .null => some none
  | value => (read value).map some

/-- A boolean. -/
def bool? : Json → Option Bool
  | .bool value => some value
  | _ => none

/-- A number, rounded if it is an integer of more than 53 bits. -/
def number? : Json → Option Binary64
  | .number value => some value.toBinary64
  | _ => none

/-- A length. -/
def length? : Json → Option Nat
  | .number (.integer value) => if 0 ≤ value ∧ value ≤ Text.maxWord64 then some value.toNat else none
  | _ => none

/-- A list of strings. -/
def strings? : Json → Option (List String)
  | .array items => items.mapM Json.string?
  | _ => none

/-- A list of values. -/
def values? : Json → Option (List Json)
  | .array items => some items
  | _ => none

/-- A map to strings. -/
def stringMap? : Json → Option (Members String)
  | .object members => members.mapM fun (name, value) => value.string?.map (name, ·)
  | _ => none

/-- A discriminator, as an object or as a list. -/
def discriminator? (value : Json) : Option Discriminator :=
  match value with
  | .object members => do
    let name ← (← Members.get? members "propertyName").string?
    let mapping ← match Members.get? members "mapping" with
      | some mapping => stringMap? mapping
      | none => some []
    pure ⟨name, mapping⟩
  | .array [.string name] => some ⟨name, []⟩
  | .array [.string name, mapping] => (stringMap? mapping).map (⟨name, ·⟩)
  | _ => none

/-- An exclusive bound in either form. -/
def exclusive? : Json → Option ExclusiveBound
  | .bool value => some (.flag value)
  | .number value => some (.bound value.toBinary64)
  | _ => none

/-- The value of `additionalProperties` where it is no schema; null is as good as absence. -/
def boolOrNull? : Json → Option (Option (Additional Schema))
  | .null => some none
  | .bool allowed => some (some (.any allowed))
  | _ => none

/-- The value is null. -/
def isNull : Json → Bool
  | .null => true
  | _ => false

/-- The target, if the members are those of a reference. -/
def target? (members : List (String × Json)) : Option String :=
  (Members.get? members "$ref").bind Json.string?

/-! ## Schemas -/

mutual

/-- The schema that a value writes. -/
def decode? : Json → Option Schema
  | .object members =>
    match target? members with
    | some target => some (.ref target)
    | none => (keywords? members).map .inline
  | .array values => (listed? values).map .inline
  | .bool accepts => some (.bool accepts)
  | _ => none

/-- The keywords that the members of an object write; names that are no keyword are ignored. -/
def keywords? : List (String × Json) → Option (Keywords Schema)
  | [] => some {}
  | (name, value) :: rest => do
    let k ← keywords? rest
    match name with
    | "type" => pure { k with type := (← optional? Json.string? value).map SchemaType.ofName }
    | "format" => pure { k with format := ← optional? Json.string? value }
    | "title" => pure { k with title := ← optional? Json.string? value }
    | "description" => pure { k with description := ← optional? Json.string? value }
    | "nullable" => pure { k with nullable := ← optional? bool? value }
    | "properties" => do
      let properties ← properties? value
      pure { k with properties := properties }
    | "required" => pure { k with required := ← strings? value }
    | "additionalProperties" =>
      match boolOrNull? value with
      | some additional => pure { k with additionalProperties := additional }
      | none => do
        let schema ← decode? value
        pure { k with additionalProperties := some (.schema schema) }
    | "items" =>
      if isNull value then pure k
      else do
        let schema ← decode? value
        pure { k with items := some schema }
    | "allOf" => do
      let parts ← list? value
      pure { k with allOf := parts }
    | "oneOf" => do
      let parts ← list? value
      pure { k with oneOf := parts }
    | "anyOf" => do
      let parts ← list? value
      pure { k with anyOf := parts }
    | "discriminator" => pure { k with discriminator := ← optional? discriminator? value }
    | "enum" => pure { k with enumeration := ← values? value }
    | "const" => pure { k with constant := ← optional? some value }
    | "minimum" => pure { k with minimum := ← optional? number? value }
    | "maximum" => pure { k with maximum := ← optional? number? value }
    | "exclusiveMinimum" => pure { k with exclusiveMinimum := ← optional? exclusive? value }
    | "exclusiveMaximum" => pure { k with exclusiveMaximum := ← optional? exclusive? value }
    | "multipleOf" => pure { k with multipleOf := ← optional? number? value }
    | "minLength" => pure { k with minLength := ← optional? length? value }
    | "maxLength" => pure { k with maxLength := ← optional? length? value }
    | "pattern" => pure { k with pattern := ← optional? Json.string? value }
    | _ => pure k

/-- The keywords that a list of all their values writes. -/
def listed? : List Json → Option (Keywords Schema)
  | [type, format, title, description, nullable, properties, required, additional, items, allOf,
      oneOf, anyOf, discriminator, enumeration, constant, minimum, maximum, exclusiveMinimum,
      exclusiveMaximum, multipleOf, minLength, maxLength, pattern] => do
    let properties ← properties? properties
    let additional ← match boolOrNull? additional with
      | some additional => pure additional
      | none => do
        let schema ← decode? additional
        pure (some (.schema schema))
    let items ← if isNull items then pure none else do
      let schema ← decode? items
      pure (some schema)
    let allOf ← list? allOf
    let oneOf ← list? oneOf
    let anyOf ← list? anyOf
    pure {
      type := (← optional? Json.string? type).map SchemaType.ofName
      format := ← optional? Json.string? format
      title := ← optional? Json.string? title
      description := ← optional? Json.string? description
      nullable := ← optional? bool? nullable
      properties
      required := ← strings? required
      additionalProperties := additional
      items, allOf, oneOf, anyOf
      discriminator := ← optional? discriminator? discriminator
      enumeration := ← values? enumeration
      constant := ← optional? some constant
      minimum := ← optional? number? minimum
      maximum := ← optional? number? maximum
      exclusiveMinimum := ← optional? exclusive? exclusiveMinimum
      exclusiveMaximum := ← optional? exclusive? exclusiveMaximum
      multipleOf := ← optional? number? multipleOf
      minLength := ← optional? length? minLength
      maxLength := ← optional? length? maxLength
      pattern := ← optional? Json.string? pattern }
  | _ => none

/-- The value of `properties`. -/
def properties? : Json → Option (List (String × Schema))
  | .object members => decodeMembers? members
  | _ => none

/-- The value of a keyword that holds a list of schemas. -/
def list? : Json → Option (List Schema)
  | .array items => decodeItems? items
  | _ => none

/-- Schemas under names. -/
def decodeMembers? : List (String × Json) → Option (List (String × Schema))
  | [] => some []
  | (name, value) :: rest => do
    let schema ← decode? value
    let schemas ← decodeMembers? rest
    pure ((name, schema) :: schemas)

/-- Schemas one after the other. -/
def decodeItems? : List Json → Option (List Schema)
  | [] => some []
  | value :: rest => do
    let schema ← decode? value
    let schemas ← decodeItems? rest
    pure (schema :: schemas)

end

/-- Reading a schema as part of a model: whatever is wrong inside it, the schema is at fault as a
whole. -/
def decode : Decoder Json Schema := fun value =>
  match decode? value with
  | some schema => .ok schema
  | none => .error (.noForm "SchemaOrRef")

end OpenApi.Schema

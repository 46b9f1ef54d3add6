import OpenApi.Schema.Keywords

/-!
Writing schemas: the keywords in a fixed order, those that say nothing left out.
-/

namespace OpenApi

namespace Encode

/-- A member that is there if there is a value. -/
def optional {α : Type} (name : String) (write : α → Json) : Option α → List (String × Json)
  | none => []
  | some value => [(name, write value)]

/-- A member that is there if the list is not empty. -/
def unlessEmpty {α : Type} (name : String) (write : List α → Json) :
    List α → List (String × Json)
  | [] => []
  | items => [(name, write items)]

/-- A list of strings. -/
def strings (items : List String) : Json := .array (items.map .string)

/-- A map to strings. -/
def stringMap (members : Members String) : Json :=
  .object (members.map fun (name, value) => (name, .string value))

/-- A binary64 number. -/
def binary (value : Binary64) : Json := .number (.binary value)

/-- A natural number. -/
def natural (value : Nat) : Json := .number (.integer value)

end Encode

open Encode in
/-- The object that writes a discriminator. -/
def Discriminator.encode (d : Discriminator) : Json :=
  .object ([("propertyName", .string d.propertyName)] ++ unlessEmpty "mapping" stringMap d.mapping)

/-- An exclusive bound in its own form. -/
def ExclusiveBound.encode : ExclusiveBound → Json
  | .flag exclusive => .bool exclusive
  | .bound value => Encode.binary value

namespace Schema

open Encode

mutual

/-- The value that writes a schema. -/
def encode : Schema → Json
  | .ref target => .object [("$ref", .string target)]
  | .bool accepts => .bool accepts
  | .inline keywords => .object (encodeKeywords keywords)

/-- The members that write the keywords of a schema. -/
def encodeKeywords : Keywords Schema → List (String × Json)
  | { type, format, title, description, nullable, properties, required, additionalProperties,
      items, allOf, oneOf, anyOf, discriminator, enumeration, constant, minimum, maximum,
      exclusiveMinimum, exclusiveMaximum, multipleOf, minLength, maxLength, pattern } =>
    optional "type" (fun t => .string t.name) type ++
    optional "format" .string format ++
    optional "title" .string title ++
    optional "description" .string description ++
    optional "nullable" .bool nullable ++
    encodeProperties "properties" properties ++
    unlessEmpty "required" strings required ++
    encodeAdditional "additionalProperties" additionalProperties ++
    encodeOptional "items" items ++
    encodeList "allOf" allOf ++
    encodeList "oneOf" oneOf ++
    encodeList "anyOf" anyOf ++
    optional "discriminator" Discriminator.encode discriminator ++
    unlessEmpty "enum" .array enumeration ++
    optional "const" id constant ++
    optional "minimum" binary minimum ++
    optional "maximum" binary maximum ++
    optional "exclusiveMinimum" ExclusiveBound.encode exclusiveMinimum ++
    optional "exclusiveMaximum" ExclusiveBound.encode exclusiveMaximum ++
    optional "multipleOf" binary multipleOf ++
    optional "minLength" natural minLength ++
    optional "maxLength" natural maxLength ++
    optional "pattern" .string pattern

/-- A member for schemas under names, if there are any. -/
def encodeProperties (name : String) : List (String × Schema) → List (String × Json)
  | [] => []
  | (key, schema) :: rest => [(name, .object ((key, encode schema) :: encodeMembers rest))]

/-- A member for `additionalProperties`, if it is given. -/
def encodeAdditional (name : String) : Option (Additional Schema) → List (String × Json)
  | none => []
  | some (.any allowed) => [(name, .bool allowed)]
  | some (.schema schema) => [(name, encode schema)]

/-- A member for a schema, if it is given. -/
def encodeOptional (name : String) : Option Schema → List (String × Json)
  | none => []
  | some schema => [(name, encode schema)]

/-- A member for a list of schemas, if there are any. -/
def encodeList (name : String) : List Schema → List (String × Json)
  | [] => []
  | schema :: rest => [(name, .array (encode schema :: encodeItems rest))]

/-- Schemas under names. -/
def encodeMembers : List (String × Schema) → List (String × Json)
  | [] => []
  | (name, schema) :: rest => (name, encode schema) :: encodeMembers rest

/-- Schemas one after the other. -/
def encodeItems : List Schema → List Json
  | [] => []
  | schema :: rest => encode schema :: encodeItems rest

end

end Schema

end OpenApi

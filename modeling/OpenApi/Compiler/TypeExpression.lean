import OpenApi.Code.Field
import OpenApi.Compiler
import OpenApi.Schema.Fold

/-!
The type of the values that a schema accepts. A reference becomes the name of the type declared for
the schema behind it, so a type is as deep as its schema.
-/

namespace OpenApi

namespace Code

/-- Types joined by an operator, in parentheses if there are several. -/
def combined (operator : String) : List Code → Code
  | [type] => type
  | types => (join operator types).parens

/-- The field for all keys that have none of their own. -/
def indexField (type : Code) : Field := { name := "[key: string]", type, raw := true }

/-- The type of objects with the given fields, and further ones of the type `index`. Without fields
it says what `isOpen` does: any members at all, or none. -/
def recordType (fields : List Field) (index : Option Code) (isOpen : Bool) : Code :=
  match index, fields with
  | none, [] => if isOpen then "Record<string, unknown>" else "Record<string, never>"
  | none, fields => Field.objectType fields
  | some type, fields =>
    if fields.isEmpty || type.render == "unknown" then
      Field.objectType (fields ++ [indexField type])
    else
      (cat [Field.objectType fields, " & ", Field.objectType [indexField type]]).parens

end Code

namespace Compiler

/-- The type of strings, which a format may replace. -/
def stringType (c : Compiler) (k : Keywords Schema) : Compile Code :=
  match k.format with
  | none => pure "string"
  | some name => do
    let format ← c.formats.require name k
    Compile.use (·.withImports format.imports)
    pure format.typeCode

/-- The type of arrays. -/
def arrayType : Option (Compile Code) → Compile Code
  | none => pure "Array<unknown>"
  | some items => return Code.cat ["Array<", ← items, ">"]

/-- The type of objects. -/
def objectType (k : Keywords (Compile Code)) : Compile Code := do
  let fields ← k.properties.mapM fun (name, type) =>
    return { name, type := ← type, optional := !k.required.contains name : Field }
  let index ← match k.additionalProperties with
    | some (.any true) => pure (some ("unknown" : Code))
    | some (.schema type) => some <$> type
    | some (.any false) | none => pure none
  pure (Code.recordType fields index k.additionalProperties.isNone)

/-- The type for the keywords `k`; `parts` has the types of the schemas inside. A composition goes
first, then listed values, then what the keyword `type` says or the others suggest. -/
def keywordsType (c : Compiler) (k : Keywords Schema) (parts : Keywords (Compile Code)) :
    Compile Code := do
  if !k.allOf.isEmpty then
    let members ← parts.allOf.mapM id
    let own ← if k.properties.isEmpty && k.additionalProperties.isNone then pure []
      else (fun type => [type]) <$> objectType parts
    return Code.combined " & " (members ++ own)
  if !k.oneOf.isEmpty then return Code.combined " | " (← parts.oneOf.mapM id)
  if !k.anyOf.isEmpty then return Code.combined " | " (← parts.anyOf.mapM id)
  if !k.enumeration.isEmpty then
    return Code.combined " | " (k.enumeration.map fun value => Code.site value.text)
  if let some value := k.constant then return Code.site value.text
  match k.type with
  | some .null => pure "null"
  | some .boolean => pure "boolean"
  | some .integer | some .number => pure "number"
  | some .string => c.stringType k
  | some .array => arrayType parts.items
  | some .object => objectType parts
  | some (.unknown name) => throw (.unknownType name (.schema k))
  | none =>
    if k.isObjectLike then objectType parts
    else if k.items.isSome then arrayType parts.items
    else if k.format.isSome then c.stringType k
    else pure "unknown"

/-- The type of the values that a schema accepts. -/
def schemaType (c : Compiler) : Schema → Compile Code :=
  Schema.fold (fun target => return (← c.typeName target : String))
    (fun accepts => pure (if accepts then "unknown" else "never"))
    (fun k parts => do
      let type ← c.keywordsType k parts
      pure (if k.isNullable then (type ++ " | null").parens else type))

end Compiler

end OpenApi

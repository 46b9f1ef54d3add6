import OpenApi.Compiler.Conversion
import OpenApi.Compiler.TypeExpression

/-!
The file that declares a type for every component schema, and the functions that convert its values
where there is anything to convert.
-/

namespace OpenApi

namespace Compiler

/-- The argument of the function that converts the values of a type, and the type of its result. -/
def signature (name : String) : Direction → Code
  | .parse => Code.cat ["(value: any): ", name]
  | .serialize => Code.cat ["(value: ", name, "): any"]

/-- The function that converts the values of a component schema, if there is anything to convert.
-/
def conversionFunction (c : Compiler) (name reference : String) (schema : Schema)
    (d : Direction) : Compile Code := do
  if !(← c.needsConversion d reference) then return Code.empty
  let function ← c.functionName d reference
  let converted ← c.convert d schema "value"
  return Code.cat ["export function ", function, signature name d, " \x7b\n  ", converted.returned,
    "\n\x7d\n\n"]

/-- The declarations for a component schema. -/
def typeDeclarations (c : Compiler) (key : String) (schema : Schema) : Compile Code := do
  let reference := Pointer.ofSchema key
  let name ← c.typeName reference
  let type ← c.schemaType schema
  let parse ← c.conversionFunction name reference schema .parse
  let serialize ← c.conversionFunction name reference schema .serialize
  return Code.cat ["export type ", name, " = ", type, ";\n\n", parse, serialize]

/-- The body of the file of types. -/
def typesBody (c : Compiler) : Compile Code := do
  let declarations ← c.document.spec.schemas.mapM fun (key, schema) =>
    c.typeDeclarations key schema
  return if declarations.isEmpty then "export \x7b\x7d;\n" else Code.cat declarations

end Compiler

end OpenApi

import OpenApi.Code.Field
import OpenApi.Compiler.Conversion
import OpenApi.Compiler.TypeExpression
import OpenApi.ContentType

/-!
The values of bodies: their types, and how they are read from the wire and written to it. The codec
decides, and the schema counts only where the codec keeps the structure of a value.
-/

namespace OpenApi

/-- A body that has been read: the statement that reads it, and the expression for its value. -/
structure BodyRead where
  statement : Code
  value : Code
  deriving DecidableEq, Repr, Inhabited

namespace Compiler

/-- The type of the value of a body. -/
def bodyType (c : Compiler) (codec : Codec) (media : MediaType) : Compile Code :=
  match codec, media.schema with
  | .json, some schema | .form, some schema => c.schemaType schema
  | .json, none | .form, none => pure "unknown"
  | .text, _ => pure "string"
  | .binary, _ | .raw, _ => pure "Uint8Array"

/-- A structured value that `parser` reads from the text of the source, converted as the schema
says; `hint` names the variable for it. -/
def readStructured (c : Compiler) (hint parser : String) (media : MediaType) (source : String) :
    Compile BodyRead := do
  let name ← Compile.fresh hint
  let statement : Code := Code.cat
    ["const ", name, ": any = ", parser, (Code.cat ["await ", source, ".text()"]).parens, ";"]
  let value ← match media.schema with
    | some schema => c.convert .parse schema name
    | none => pure name
  return { statement, value }

/-- The value that the method `method` of the source gives. -/
def readPlain (hint method source : String) : Compile BodyRead := do
  let name ← Compile.fresh hint
  return { statement := Code.cat ["const ", name, " = await ", source, ".", method, "();"]
           value := name }

/-- Reading a body from `source`, which offers its text and its bytes. -/
def decodeBody (c : Compiler) (codec : Codec) (media : MediaType) (source : String) :
    Compile BodyRead := do
  match codec with
  | .json => c.readStructured "json" "JSON.parse" media source
  | .form =>
    Compile.use fun u => { u with queryString := true }
    c.readStructured "form" "qs.parse" media source
  | .text => readPlain "text" "text" source
  | .binary | .raw => readPlain "bytes" "bytes" source

/-- The string or the bytes for the value of a body. -/
def encodeBody (c : Compiler) (codec : Codec) (media : MediaType) (value : Code) :
    Compile Code := do
  let serialized ← match media.schema with
    | some schema => c.convert .serialize schema value
    | none => pure value
  match codec with
  | .json => return Code.cat ["JSON.stringify", serialized.parens]
  | .form =>
    Compile.use fun u => { u with queryString := true }
    return Code.cat ["qs.stringify", serialized.parens]
  | .text | .binary | .raw => return value

/-- The type of a body together with its content type, one variant for every content type. -/
def bodyUnionType (c : Compiler) (content : Content) : Compile Code := do
  let variants ← content.mapM fun (contentType, media) => do
    let value ← c.bodyType (.ofContentType contentType) media
    return Field.objectType
      [{ name := "contentType", type := quoted contentType, raw := true },
        { name := "value", type := value, raw := true }]
  return Code.combined " | " variants

end Compiler

end OpenApi

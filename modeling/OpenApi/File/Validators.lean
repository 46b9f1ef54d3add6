import OpenApi.Compiler

/-!
The file with a function for every component schema that tells whether a value is of its type. The
schemas themselves are part of the file.
-/

namespace OpenApi

namespace Compiler

/-- The function that tells whether a value belongs to a component schema. -/
def validatorFunction (c : Compiler) (key : String) : Compile Code := do
  let reference := Pointer.ofSchema key
  let type ← c.typeName reference
  let name ← (c.document.refName reference).mapError CompileError.unresolved
  return Code.cat ["\nexport function validate", Name.capitalized name,
    "(value: unknown): value is ", type, " \x7b\n  return validator(", quoted reference,
    ", value);\n\x7d\n"]

/-- The components of the document as they are written in it, in a document of their own. -/
def componentsOnly (doc : Document) : Json :=
  .object [("components", (doc.raw.get? "components").getD (.object []))]

/-- The body of the file of validators. -/
def validatorsBody (c : Compiler) : Compile Code := do
  let create ← Compile.runtime "createValidator"
  let functions ← c.document.spec.schemas.mapM fun (key, _) => c.validatorFunction key
  return Code.cat ["const validator = ", create,
    (Code.site (componentsOnly c.document).text).parens, ";\n", Code.cat functions]

end Compiler

end OpenApi

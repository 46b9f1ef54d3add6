import OpenApi.Compiler.TypeExpression
import OpenApi.Parameter.Form

/-!
The type of the value of a parameter, for those who call a client and for the handlers of a server.
-/

namespace OpenApi

/-- The type of the value of a parameter. -/
def Compiler.parameterType (c : Compiler) (p : Parameter) : Compile Code := do
  match ← p.form with
  | .flag => pure "boolean"
  | .styled schema | .json (some schema) => c.schemaType schema
  | .json none => pure "unknown"
  | .text => pure "string"

end OpenApi

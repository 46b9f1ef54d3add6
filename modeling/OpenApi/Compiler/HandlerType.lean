import OpenApi.Compiler.OperationType

/-!
The type of the function that answers a call on the side of the server.
-/

namespace OpenApi

/-- The declaration of the type of the handler of an operation. -/
def Compiler.handlerType (c : Compiler) (o : ResolvedOperation) : Write Code := do
  let parameters ← c.parametersType o .server
  let body ← (← c.document.requestBody? o).mapM fun body => do
    let type ← c.bodyUnionType body.content
    return Field.plain "body" (if body.required then type else type ++ " | undefined")
  let cases ← c.document.responseCases o .server
  let variants ← (cases.mapM c.responseType : Compile (List Code))
  let result : Code := if variants.isEmpty then "never" else Code.join " | " variants
  let arguments :=
    Field.arguments ((parameters.map (Field.plain "params")).toList ++ body.toList)
  return Code.cat ["export type ", o.handlerType, " = ", arguments.parens, " => Promise<", result,
    ">;\n"]

end OpenApi

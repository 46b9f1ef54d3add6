import OpenApi.Compiler.BodyValue
import OpenApi.Compiler.ParameterType
import OpenApi.Operation.Resolved

/-!
The types in which the function of a client and the handler of a server agree: the parameters, the
body and the responses of an operation.
-/

namespace OpenApi

/-- A field whose name stands as it is. -/
def Field.plain (name : String) (type : Code) (optional : Bool := false) : Field :=
  { name, type, optional, raw := true }

/-- Whether the value of a parameter is always there. A client may leave a flag out, but a handler
is told of it in any case. -/
def Parameter.isAlwaysGiven (p : Parameter) (side : Side) : Bool :=
  p.required || p.location == .path || (side == .server && p.isFlag)

namespace Compiler

/-- The type of the object of all parameters, if there are any. -/
def parametersType (c : Compiler) (o : ResolvedOperation) (side : Side) :
    Compile (Option Code) := do
  if o.parameters.isEmpty then return none
  let fields ← o.parameters.mapM fun p =>
    return { name := p.name, type := ← c.parameterType p,
             optional := !p.isAlwaysGiven side : Field }
  return some (Field.objectType fields)

/-- The type of a response. -/
def responseType (c : Compiler) (case : ResponseCase) : Compile Code := do
  let headers ← case.headers.mapM fun (name, header) =>
    return { name, type := ← c.parameterType (header.toParameter name),
             optional := !header.required : Field }
  let body ← if case.content.isEmpty then pure []
    else (fun type => [Field.plain "body" type]) <$> c.bodyUnionType case.content
  return Field.objectType ([Field.plain "status" (toString case.status)] ++
    (if headers.isEmpty then [] else [Field.plain "headers" (Field.objectType headers)]) ++ body)

end Compiler

end OpenApi

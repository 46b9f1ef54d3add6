import OpenApi.Compiler.Endpoint
import OpenApi.Compiler.HandlerType

/-!
The two files of a server: the types of the handlers, and the functions that receive the calls with
the table of routes that leads to them.
-/

namespace OpenApi

namespace Compiler

/-- The body of the file of handler types. -/
def handlerTypesBody (c : Compiler) : Write Code := do
  let operations ← c.document.operations
  let types ← operations.mapM fun o => return (← c.handlerType o) ++ "\n"
  let handlers := operations.map fun o =>
    Code.cat ["  ", quoted o.functionName, ": ", o.handlerType, ";\n"]
  return Code.cat [Code.cat types, "export type Handlers = \x7b\n", Code.cat handlers, "\x7d;\n"]

/-- The entry of an operation in the table of routes. -/
def routeEntry (o : ResolvedOperation) : Code :=
  let call := Code.cat ["(request) => ", o.endpoint,
    (Code.cat ["handlers", (quoted o.functionName).brackets, ", request"]).parens]
  let route := (Code.join ", " [Code.cat ["method: ", quoted o.method.name],
    Code.cat ["path: ", quoted (PathTemplate.ofString o.path).route],
    Code.cat ["handle: ", call]]).braced
  Code.cat ["    ", route, ",\n"]

/-- The body of the file of a server. -/
def serverBody (c : Compiler) : Write Code := do
  let operations ← c.document.operations
  let endpoints ← operations.mapM fun o =>
    return (← c.endpoint o ("ServerTypes." ++ o.handlerType)) ++ "\n"
  let route ← (Compile.runtime "Route" : Compile String)
  return Code.cat [Code.cat endpoints,
    "export function routes(handlers: ServerTypes.Handlers): Array<", route,
    "> \x7b\n  return [\n", Code.cat (operations.map routeEntry), "  ];\n\x7d\n"]

end Compiler

end OpenApi

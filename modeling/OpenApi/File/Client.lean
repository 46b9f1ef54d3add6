import OpenApi.Compiler.ClientCall

/-!
The file with a function for every operation that calls it.
-/

namespace OpenApi

/-- The body of the file of a client. -/
def Compiler.clientBody (c : Compiler) : Write Code := do
  let server := match c.document.spec.defaultServer with
    | some url => Code.cat ["export const defaultServer = ", quoted url, ";\n\n"]
    | none => Code.empty
  let calls ← (← c.document.operations).mapM c.clientCall
  if calls.isEmpty && server.isEmpty then return "export \x7b\x7d;\n"
  return server ++ Code.join "\n" calls

end OpenApi

import OpenApi.Compiler.ClientCall

/-!
The function of a server that receives a call: it unpacks the request, has the handler answer it,
and packs the answer into a response.
-/

namespace OpenApi

/-- The method of a request that gives the raw value of a parameter. -/
def Location.accessor : Location → String
  | .path => "pathParam"
  | .query => "query"
  | .header => "header"
  | .cookie => "cookie"

namespace Compiler

/-! ## The request -/

/-- The statements that read a parameter, and its value as a member of an object. -/
def readParameter (c : Compiler) (p : Parameter) : Compile (List Statement × Code) := do
  let raw ← Compile.fresh "raw"
  let unpacked ← c.unpack p raw
  let isGuarded := !p.isFlag && (p.required || p.location == .path)
  let guarded ← if !isGuarded then pure [] else do
    let failure ← Compile.throwMalformed p.location.name p.name
      (Text.quoted "missing required parameter")
    pure [Statement.line (Code.cat ["if (", raw, " === undefined) ", failure])]
  let value := if p.isFlag || isGuarded then unpacked
    else Code.cat [raw, " === undefined ? undefined : ", unpacked]
  let parameter ← Compile.fresh "param"
  let access := Code.cat ["request.", p.location.accessor, (quoted p.name).parens]
  return ([.constant raw access] ++ guarded ++ [.constant parameter value],
    Code.cat [quoted p.name, ": ", parameter])

/-- The statements that read all parameters, and the argument that they become. -/
def readParameters (c : Compiler) (o : ResolvedOperation) :
    Compile (List Statement × List String) := do
  if o.parameters.isEmpty then return ([], [])
  let read ← o.parameters.mapM c.readParameter
  let all ← Compile.fresh "params"
  let object := (Code.join ", " (read.map (·.2))).braced
  return (read.flatMap (·.1) ++ [.constant all object], [all])

/-- The statements that read the body of a request, and the argument that it becomes. -/
def readBody (c : Compiler) (body : Option RequestBody) :
    Compile (List Statement × List String) := do
  let some declared := body | return ([], [])
  let name ← Compile.fresh "body"
  let type ← c.bodyUnionType declared.content
  let contentType ← Compile.fresh "contentType"
  let accepts ← Compile.runtime "matches"
  let clauses ← declared.content.mapM fun (expected, media) => do
    let read ← c.decodeBody (.ofContentType expected) media "request"
    let value := (Code.cat ["contentType: ", quoted expected, ", value: ", read.value]).braced
    return (Code.cat [accepts, (Code.cat [quoted expected, ", ", contentType]).parens],
      [Statement.line read.statement, .line (Code.cat [name, " = ", value, ";"])])
  let unsupported ← Compile.throwMalformed "body" "content-type"
    ("\"unsupported content type \" + " ++ contentType)
  let missing ← if !declared.required then pure [] else do
    let failure ← Compile.throwMalformed "body" "body" (Text.quoted "missing request body")
    pure [Statement.line (Code.cat ["if (", name, " === undefined) ", failure])]
  return ([.line (Code.cat ["let ", name, ": ", type, " | undefined = undefined;"]),
      .constant contentType "request.contentType",
      .conditional (contentType ++ " !== undefined" : String)
        (Statement.firstOf clauses [.line unsupported])] ++ missing,
    [name])

/-! ## The response -/

/-- The statements that return a response; `members` are those of the result without a body. -/
def respond (c : Compiler) (content : Content) (result : String) (members : List Code) :
    Compile (List Statement) := do
  let value : Code := Code.site (result ++ ".body.value")
  let full (contentType : String) (encoded : Code) : Code :=
    (Code.join ", " (members ++ [Code.cat ["contentType: ", quoted contentType],
      Code.cat ["body: ", encoded]])).braced.returned
  match content with
  | [] => return [returnObject members]
  | [(contentType, media)] =>
    return [.line (full contentType (← c.encodeBody (.ofContentType contentType) media value))]
  | content =>
    let accepts ← Compile.runtime "accepts"
    let cases ← content.mapM fun (contentType, media) => do
      let encoded ← c.encodeBody (.ofContentType contentType) media value
      return Statement.line (Code.cat ["case ", quoted contentType, ": if (", accepts,
        (Code.cat ["request, ", quoted contentType]).parens, ") ", full contentType encoded,
        " break;"])
    let refuse ← Compile.runtime "notAcceptable"
    return [.only (Code.cat ["switch (", result, ".body.contentType)"]) cases,
      .line ("return " ++ refuse ++ "();" : String)]

/-- The statements for a result with a status. -/
def respondCase (c : Compiler) (result : String) (case : ResponseCase) : Compile Statement := do
  let headers ← case.headers.mapM fun (name, header) =>
    c.headerPair (header.toParameter name) "response header"
      ((Code.site (result ++ ".headers")).member name)
  let packed ← Compile.fresh "headers"
  let status := toString case.status
  let statements ← c.respond case.content result
    [Code.site ("status: " ++ status), Code.site ("headers: " ++ packed)]
  return .only ("case " ++ status ++ ":" : String)
    (.typedConstant packed headersType (Code.join ", " headers).brackets :: statements)

/-- The statements that call the handler and pack its answer. -/
def answer (c : Compiler) (cases : List ResponseCase) (result : String) (arguments : List String) :
    Compile (List Statement) := do
  let cases ← cases.mapM (c.respondCase result)
  let failure ← Compile.throwMalformed "response" "status"
    (Text.quoted "handler returned an undeclared status")
  let call := Code.cat ["await handler", (Code.join ", " (arguments.map Code.site)).parens]
  return [.constant result call,
    .only (Code.cat ["switch (", result, ".status)"])
      (cases ++ [.line ("default: " ++ failure : String)])]

/-! ## The function -/

/-- The function of a server that receives the call, for handlers of the given type. -/
def endpoint (c : Compiler) (o : ResolvedOperation) (handlerType : String) : Write Code := do
  let request ← (Compile.runtime "ServerRequest" : Compile String)
  let response ← (Compile.runtime "ServerResponse" : Compile String)
  let (readParameters, parameters) ← c.readParameters o
  let (readBody, body) ← c.readBody (← c.document.requestBody? o)
  let result ← (Compile.fresh "result" : Compile String)
  let cases ← c.document.responseCases o .server
  let answer ← c.answer cases result (parameters ++ body)
  let arguments := Field.arguments [.plain "handler" handlerType, .plain "request" request]
  let head := Code.cat ["export async function ", o.endpoint, arguments.parens, ": Promise<",
    response, ">"]
  return (Statement.only head (readParameters ++ readBody ++ answer)).code 0

end Compiler

end OpenApi

import OpenApi.Code.DocComment
import OpenApi.Code.Statement
import OpenApi.Compiler.OperationType
import OpenApi.Compiler.Packing
import OpenApi.Compiler.Unpacking
import OpenApi.PathTemplate

/-!
The function of a client that makes a call: it packs the parameters and the body into a request,
has the runtime send it, and reads the response.
-/

namespace OpenApi

/-- The type of arrays of pairs whose values may be missing. -/
def pairsType : String := "Array<[string, string | null]>"

/-- The type of arrays of headers. -/
def headersType : String := "Array<[string, string]>"

/-- The value of a parameter in the function of a client. -/
def Parameter.given (name : String) : Code := ("params" : Code).member name

namespace Compiler

/-! ## The request -/

/-- The text of a parameter whose style gives one; `place` says what needs it. -/
def packText (c : Compiler) (p : Parameter) (place : String) (value : Code) : Compile Code := do
  match ← c.pack p value with
  | .text text => return text
  | .pairs _ => throw (.notImplemented (.formStyle place p.name))

/-- The text that fills in a placeholder of the path. -/
def pathSegment (c : Compiler) (o : ResolvedOperation) (name : String) : Compile Code := do
  let value := Parameter.given name
  let text ← match (o.parametersAt .path).find? (·.name == name) with
    | some p => c.packText p "path parameter" value
    | none => pure (Code.cat ["String", value.parens])
  return Code.cat ["encodeURIComponent", text.parens]

/-- The path with all placeholders filled in. -/
def requestPath (c : Compiler) (o : ResolvedOperation) : Compile Code := do
  let template := PathTemplate.ofString o.path
  let segments ← template.placeholders.mapM fun name => return (name, ← c.pathSegment o name)
  let filled := segments.foldl (fun known (name, code) => Members.put known name code) []
  return template.render fun name => (Members.get? filled name).getD Code.empty

/-- The pairs of a query parameter or a cookie as elements of an array. -/
def requestPairs (c : Compiler) (p : Parameter) : Compile Code := do
  let value := Parameter.given p.name
  let pairs ← match ← c.pack p value with
    | .pairs pairs => pure pairs
    | .text text => pure (Code.singlePair p.name text)
  if p.isFlag || p.required then return Code.cat ["...", pairs.parenthesized]
  return Code.cat ["...", (Code.cat [value, " !== undefined ? ", pairs, " : []"]).parens]

/-- A header of a request or a response as an element of an array. -/
def headerPair (c : Compiler) (p : Parameter) (place : String) (value : Code) : Compile Code := do
  let text ← c.packText p place value
  if p.required then return (Code.cat [quoted p.name, ", ", text]).brackets
  return value.pairIfPresent p.name text

/-- The statements that build the payload of a request. -/
def payloadStatements (c : Compiler) (body : RequestBody) : Compile (List Statement) := do
  let cases ← body.content.mapM fun (contentType, media) => do
    let data ← c.encodeBody (.ofContentType contentType) media "body.value"
    let payload := Code.cat ["contentType: ", quoted contentType, ", data: ", data]
    return Statement.line
      (Code.cat ["case ", quoted contentType, ": payload = ", payload.braced, "; break;"])
  let choice := Statement.only "switch (body.contentType)" cases
  let type : Code := Code.cat
    [("contentType: string; data: string | Uint8Array" : Code).braced, " | undefined"]
  return [.line (Code.cat ["let payload: ", type, " = undefined;"]),
    if body.required then choice else .conditional "body !== undefined" [choice]]

/-- The statements that make a request and wait for its outcome. -/
def requestStatements (c : Compiler) (o : ResolvedOperation) (body : Option RequestBody) :
    Compile (List Statement) := do
  let path ← c.requestPath o
  let query ← (o.parametersAt .query).mapM c.requestPairs
  let headers ← (o.parametersAt .header).mapM fun p =>
    c.headerPair p "header parameter" (Parameter.given p.name)
  let cookies ← (o.parametersAt .cookie).mapM c.requestPairs
  let cookieStatements : List Statement := if cookies.isEmpty then [] else
    [.typedConstant "cookies" pairsType (Code.join ", " cookies).brackets]
  let cookieHeader ← if cookies.isEmpty then pure [] else do
    let pack ← Compile.runtime "cookieHeader"
    pure [Code.cat ["...",
      (Code.cat ["cookies.length > 0 ? ", Code.singlePair "Cookie" (pack ++ "(cookies)"),
        " : []"]).parens]]
  let payload ← match body with
    | none => pure []
    | some body => c.payloadStatements body
  let request := (Code.cat ["method: ", quoted o.method.name, ", path, query, headers, body: ",
    if body.isSome then "payload" else "undefined"]).braced
  let send ← Compile.runtime (if o.authenticated then "sendAuthenticated" else "send")
  let arguments : Code := Code.cat
    ["transport, ", request, if o.authenticated then ", account, authenticator, refresh" else ""]
  return [.constant "path" path, .typedConstant "query" pairsType (Code.join ", " query).brackets] ++
    cookieStatements ++
    [.typedConstant "headers" headersType (Code.join ", " (headers ++ cookieHeader)).brackets] ++
    payload ++
    [.constant "outcome" (Code.cat ["await ", send, arguments.parens]),
      .line "if (outcome.status !== \"response\") return outcome;",
      .constant "response" "outcome.response"]

/-! ## The response -/

/-- The statements that read a header of a response, and its value as a member of an object. -/
def readHeader (c : Compiler) (name : String) (header : Header) :
    Compile (List Statement × Code) := do
  let raw ← Compile.fresh "header"
  let value ← c.unpack (header.toParameter name) raw
  let read := Statement.constant raw (Code.cat ["response.header", (quoted name).parens])
  if header.required then
    let failure ← Compile.throwMalformed "header" name (Text.quoted "missing required header")
    return ([read, .line (Code.cat ["if (", raw, " === undefined) ", failure])],
      Code.cat [quoted name, ": ", value])
  return ([read], Code.cat [quoted name, ": ", raw, " === undefined ? undefined : ", value])

/-- The statements that read the headers of a response, and the member for them in the result. -/
def readHeaders (c : Compiler) (headers : Members Header) :
    Compile (List Statement × List Code) := do
  if headers.isEmpty then return ([], [])
  let read ← headers.mapM fun (name, header) => c.readHeader name header
  let all ← Compile.fresh "headers"
  let object := (Code.join ", " (read.map (·.2))).braced
  return (read.flatMap (·.1) ++ [.constant all object], [Code.site ("headers: " ++ all)])

/-- The statement that returns an object. -/
def returnObject (members : List Code) : Statement :=
  .line (Code.join ", " members).braced.returned

/-- The statements that read the body of a response and return the result, whose other members are
`members`. -/
def readContent (c : Compiler) (content : Content) (members : List Code) :
    Compile (List Statement) := do
  if content.isEmpty then return [returnObject members]
  let accepts ← Compile.runtime "matches"
  let readers ← content.mapM fun (contentType, media) => do
    let read ← c.decodeBody (.ofContentType contentType) media "response"
    let body := (Code.cat ["contentType: ", quoted contentType, ", value: ", read.value]).braced
    return Statement.conditional
      (Code.cat [accepts, (Code.cat [quoted contentType, ", response.contentType"]).parens])
      [.line read.statement, returnObject (members ++ [Code.cat ["body: ", body]])]
  let failure ← Compile.throwMalformed "response" "content-type"
    "\"unexpected content type \" + response.contentType"
  return readers ++ [.line failure]

/-- The statements for the responses with a status. -/
def responseStatement (c : Compiler) (case : ResponseCase) : Compile Statement := do
  let (statements, members) ← c.readHeaders case.headers
  let rest ← c.readContent case.content
    (Code.site ("status: " ++ toString case.status) :: members)
  return .only ("case " ++ toString case.status ++ ":" : String) (statements ++ rest)

/-- The statement that takes the response apart. -/
def responsesStatement (c : Compiler) (cases : List ResponseCase) : Compile Statement := do
  let cases ← cases.mapM c.responseStatement
  let failure ← Compile.throwMalformed "response" "status"
    "\"unexpected status \" + String(response.status)"
  return .only "switch (response.status)" (cases ++ [.line ("default: " ++ failure : String)])

/-! ## The function -/

/-- The parameters of the function with which every caller has to provide it. -/
def callerFields (o : ResolvedOperation) : Compile (List Field) := do
  let field (name type : String) : Compile Field :=
    return Field.plain name (← Compile.runtime type : String)
  let transport ← field "transport" "Transport"
  if !o.authenticated then return [transport]
  return [transport, ← field "account" "Account", ← field "authenticator" "Authenticator",
    ← field "refresh" "RefreshCallback"]

/-- The function of a client that makes the call. -/
def clientCall (c : Compiler) (o : ResolvedOperation) : Write Code := do
  let caller ← callerFields o
  let parameters ← c.parametersType o .client
  let body ← c.document.requestBody? o
  let bodyType ← body.mapM fun body =>
    return Field.plain "body" (← c.bodyUnionType body.content) (!body.required)
  let cases ← c.document.responseCases o .client
  let variants ← (cases.mapM c.responseType : Compile (List Code))
  let failures : List Code :=
    [("status: \"network\"; error: unknown" : Code).braced] ++
      if o.authenticated then
        [("status: \"user-cancel\"" : Code).braced, ("status: \"unauthenticated\"" : Code).braced]
      else []
  let request ← c.requestStatements o body
  let response ← c.responsesStatement cases
  let arguments := Field.arguments
    (caller ++ (parameters.map (Field.plain "params")).toList ++ bodyType.toList)
  let head := Code.cat ["export async function ", o.functionName, arguments.parens,
    ": Promise<", Code.join " | " (variants ++ failures), ">"]
  return o.operation.docComment ++ (Statement.only head (request ++ [response])).code 0

end Compiler

end OpenApi

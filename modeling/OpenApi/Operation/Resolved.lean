import OpenApi.ContentType
import OpenApi.Report
import OpenApi.Text.Natural

/-!
The operations of a document with what they refer to: their parameters together with those of their
path, whether they demand authentication, and their responses.
-/

namespace OpenApi

/-- An operation at its place in the document. -/
structure ResolvedOperation where
  path : String
  method : Method
  operation : Operation
  /-- the name that the document gives to the operation -/
  id : String
  /-- the parameters of the path before those of the operation itself -/
  parameters : List Parameter
  authenticated : Bool
  deriving Inhabited

/-- A response that is generated for: those by number. -/
structure ResponseCase where
  status : Nat
  content : Content
  headers : Members Header
  deriving Inhabited

/-- The two sides of a call. -/
inductive Side where
  | client
  | server
  deriving DecidableEq, Repr, Inhabited

namespace ResolvedOperation

/-- The name of the function that makes the call. -/
def functionName (o : ResolvedOperation) : String := Name.camel o.id

/-- The name of the type of the function that answers the call. -/
def handlerType (o : ResolvedOperation) : String := Name.pascal o.id ++ "Handler"

/-- The name of the function that receives the call. -/
def endpoint (o : ResolvedOperation) : String := "handle" ++ Name.pascal o.id

/-- The parameters that travel at a location. -/
def parametersAt (o : ResolvedOperation) (location : Location) : List Parameter :=
  o.parameters.filter (·.location == location)

end ResolvedOperation

namespace Document

/-- An operation with what it refers to. What it says on security itself goes before what the
document says. -/
def resolveOperation (doc : Document) (path : String) (item : PathItem) (method : Method)
    (operation : Operation) : Except CompileError ResolvedOperation := do
  let some id := operation.operationId | throw (.malformed (.noOperationId method.name path))
  let parameters ← (item.parameters ++ operation.parameters).mapM (doc.deref .parameter)
  let requirements := (operation.security <|> doc.spec.security).getD []
  pure { path, method, operation, id, parameters,
         authenticated := requiresAuthentication requirements }

/-- All operations, path by path. -/
def operations (doc : Document) : Except CompileError (List ResolvedOperation) := do
  let perPath ← doc.spec.paths.mapM fun (path, item) =>
    item.operations.mapM fun (method, operation) => doc.resolveOperation path item method operation
  pure perPath.flatten

/-! ## Bodies -/

/-- The request body of an operation, if it declares any content. -/
def requestBody? (doc : Document) (o : ResolvedOperation) :
    Except CompileError (Option RequestBody) := do
  let some body := o.operation.requestBody | return none
  let body ← doc.deref .requestBody body
  return if body.content.isEmpty then none else some body

/-- The content types of the bodies of an operation that have no codec of their own, each once. -/
def rawContentTypes (doc : Document) (o : ResolvedOperation) :
    Except CompileError (List String) := do
  let requested ← match o.operation.requestBody with
    | none => pure []
    | some body => (·.content.names) <$> doc.deref .requestBody body
  let responded ← o.operation.responses.mapM fun (_, response) =>
    return (← doc.deref .response response).content.names
  let raw := (requested ++ responded.flatten).filter (Codec.ofContentType · == Codec.raw)
  pure (raw.foldl (fun known type => if type ∈ known then known else known ++ [type]) [])

/-- Warns of all bodies that are passed on as they are. -/
def warnRawBodies (doc : Document) : Report Unit := do
  (← doc.operations).forM fun o => do
    (← doc.rawContentTypes o).forM fun contentType =>
      Report.warn (.rawBody o.id contentType)

/-! ## Responses -/

/-- A response under its status, if anything is generated for it: a response by default only stops
a client, and the runtime deals with calls that are refused for want of authentication. -/
def responseCase? (doc : Document) (o : ResolvedOperation) (side : Side) (status : String)
    (response : RefOr Response) : Report (Option ResponseCase) := do
  if status = "default" then
    match side with
    | .client => throw (.notImplemented (.defaultResponse o.id))
    | .server =>
      Report.warn (.skippedDefault o.id)
      return none
  let some code := Text.natural? Text.maxWord16 status
    | throw (.notImplemented (.responseStatus status o.id))
  if code = 401 && o.authenticated then return none
  let response ← doc.deref .response response
  let headers ← response.headers.mapM fun (name, header) =>
    return (name, ← doc.deref .header header)
  return some { status := code, content := response.content, headers }

/-- The responses of an operation that are generated for, in order. -/
def responseCases (doc : Document) (o : ResolvedOperation) (side : Side) :
    Report (List ResponseCase) :=
  return (← o.operation.responses.mapM fun (status, response) =>
    doc.responseCase? o side status response).filterMap id

end Document

end OpenApi

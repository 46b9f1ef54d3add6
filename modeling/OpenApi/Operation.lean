import OpenApi.Body
import OpenApi.Security

/-!
Operations, and the paths that they belong to.
-/

namespace OpenApi

/-- The methods for which a path can have an operation. -/
inductive Method where
  | get
  | put
  | post
  | delete
  | options
  | head
  | patch
  | trace
  deriving DecidableEq, Repr, Inhabited

/-- The word for a method in a request. -/
def Method.name : Method → String
  | .get => "GET"
  | .put => "PUT"
  | .post => "POST"
  | .delete => "DELETE"
  | .options => "OPTIONS"
  | .head => "HEAD"
  | .patch => "PATCH"
  | .trace => "TRACE"

/-- An operation. -/
structure Operation where
  operationId : Option String := none
  summary : Option String := none
  description : Option String := none
  parameters : List (RefOr Parameter) := []
  requestBody : Option (RefOr RequestBody) := none
  responses : Members (RefOr Response) := []
  deprecated : Option Bool := none
  security : Option (List SecurityRequirement) := none
  deriving Inhabited

/-- A path: parameters that all its operations share, and the operations. -/
structure PathItem where
  parameters : List (RefOr Parameter) := []
  get : Option Operation := none
  put : Option Operation := none
  post : Option Operation := none
  delete : Option Operation := none
  options : Option Operation := none
  head : Option Operation := none
  patch : Option Operation := none
  trace : Option Operation := none
  deriving Inhabited

/-- The operations of a path, the methods in a fixed order. -/
def PathItem.operations (item : PathItem) : List (Method × Operation) :=
  [(.get, item.get), (.put, item.put), (.post, item.post), (.delete, item.delete),
    (.options, item.options), (.head, item.head), (.patch, item.patch), (.trace, item.trace)].filterMap
    fun (method, operation) => operation.map (method, ·)

namespace Operation

open Decode in
/-- Reading an operation. -/
def decode : Decoder Json Operation :=
  record "Operation" (Operation.mk
    <$> optional "operationId" string
    <*> optional "summary" string
    <*> optional "description" string
    <*> orElse "parameters" [] (list Parameter.decodeRef)
    <*> optional "requestBody" RequestBody.decodeRef
    <*> orElse "responses" [] (map Response.decodeRef)
    <*> optional "deprecated" bool
    <*> optional "security" SecurityRequirement.decodeList)

/-- Writing a list of parameters. -/
def encodeParameters (parameters : List (RefOr Parameter)) : Json :=
  .array (parameters.map fun p => p.encode Parameter.encode)

open Encode in
/-- Writing an operation. -/
def encode (o : Operation) : Json :=
  .object (optional "operationId" .string o.operationId ++
    optional "summary" .string o.summary ++
    optional "description" .string o.description ++
    unlessEmpty "parameters" encodeParameters o.parameters ++
    optional "requestBody" (fun b => b.encode RequestBody.encode) o.requestBody ++
    unlessEmpty "responses"
      (fun rs => .object (rs.map fun (status, r) => (status, r.encode Response.encode)))
      o.responses ++
    optional "deprecated" .bool o.deprecated ++
    optional "security" SecurityRequirement.encodeList o.security)

end Operation

namespace PathItem

open Decode in
/-- Reading a path item. -/
def decode : Decoder Json PathItem :=
  record "PathItem" (PathItem.mk
    <$> orElse "parameters" [] (list Parameter.decodeRef)
    <*> optional "get" Operation.decode
    <*> optional "put" Operation.decode
    <*> optional "post" Operation.decode
    <*> optional "delete" Operation.decode
    <*> optional "options" Operation.decode
    <*> optional "head" Operation.decode
    <*> optional "patch" Operation.decode
    <*> optional "trace" Operation.decode)

open Encode in
/-- Writing a path item. -/
def encode (item : PathItem) : Json :=
  .object (unlessEmpty "parameters" Operation.encodeParameters item.parameters ++
    optional "get" Operation.encode item.get ++
    optional "put" Operation.encode item.put ++
    optional "post" Operation.encode item.post ++
    optional "delete" Operation.encode item.delete ++
    optional "options" Operation.encode item.options ++
    optional "head" Operation.encode item.head ++
    optional "patch" Operation.encode item.patch ++
    optional "trace" Operation.encode item.trace)

end PathItem

end OpenApi

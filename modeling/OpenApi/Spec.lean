import OpenApi.Operation

/-!
A whole OpenAPI document as a model.
-/

namespace OpenApi

/-- What the document says about itself. -/
structure Info where
  title : String
  description : Option String := none
  version : String
  deriving DecidableEq, Repr, Inhabited

/-- A server that offers the operations. -/
structure Server where
  url : String
  description : Option String := none
  deriving DecidableEq, Repr, Inhabited

/-- Parts that the document refers to by name. -/
structure Components where
  schemas : Members Schema := []
  parameters : Members (RefOr Parameter) := []
  headers : Members (RefOr Header) := []
  requestBodies : Members (RefOr RequestBody) := []
  responses : Members (RefOr Response) := []
  securitySchemes : Members SecurityScheme := []
  deriving Inhabited

/-- The document. -/
structure Spec where
  openapi : String
  info : Info
  servers : List Server := []
  paths : Members PathItem := []
  components : Option Components := none
  /-- what holds for operations that say nothing themselves -/
  security : Option (List SecurityRequirement) := none
  deriving Inhabited

open Decode in
/-- Reading the information on a document. -/
def Info.decode : Decoder Json Info :=
  record "Info" (Info.mk
    <$> mandatory "title" string
    <*> optional "description" string
    <*> mandatory "version" string)

open Encode in
/-- Writing the information on a document. -/
def Info.encode (i : Info) : Json :=
  .object ([("title", .string i.title)] ++ optional "description" .string i.description ++
    [("version", .string i.version)])

open Decode in
/-- Reading a server. -/
def Server.decode : Decoder Json Server :=
  record "Server" (Server.mk <$> mandatory "url" string <*> optional "description" string)

open Encode in
/-- Writing a server. -/
def Server.encode (s : Server) : Json :=
  .object ([("url", .string s.url)] ++ optional "description" .string s.description)

open Decode in
/-- Reading components. -/
def Components.decode : Decoder Json Components :=
  record "Components" (Components.mk
    <$> orElse "schemas" [] (map Schema.decode)
    <*> orElse "parameters" [] (map Parameter.decodeRef)
    <*> orElse "headers" [] (map Header.decodeRef)
    <*> orElse "requestBodies" [] (map RequestBody.decodeRef)
    <*> orElse "responses" [] (map Response.decodeRef)
    <*> orElse "securitySchemes" [] (map SecurityScheme.decode))

/-- Writing components of one kind. -/
def Components.encodeKind {α : Type} (encode : α → Json) (members : Members α) : Json :=
  .object (members.map fun (name, value) => (name, encode value))

open Encode in
/-- Writing components. -/
def Components.encode (c : Components) : Json :=
  .object (unlessEmpty "schemas" (encodeKind Schema.encode) c.schemas ++
    unlessEmpty "parameters" (encodeKind (RefOr.encode Parameter.encode)) c.parameters ++
    unlessEmpty "headers" (encodeKind (RefOr.encode Header.encode)) c.headers ++
    unlessEmpty "requestBodies" (encodeKind (RefOr.encode RequestBody.encode)) c.requestBodies ++
    unlessEmpty "responses" (encodeKind (RefOr.encode Response.encode)) c.responses ++
    unlessEmpty "securitySchemes" (encodeKind SecurityScheme.encode) c.securitySchemes)

namespace Spec

open Decode in
/-- Reading a document. -/
def decode : Decoder Json Spec :=
  record "OpenApiSpec" (Spec.mk
    <$> mandatory "openapi" string
    <*> mandatory "info" Info.decode
    <*> orElse "servers" [] (list Server.decode)
    <*> orElse "paths" [] (map PathItem.decode)
    <*> optional "components" Components.decode
    <*> optional "security" SecurityRequirement.decodeList)

open Encode in
/-- Writing a document. -/
def encode (s : Spec) : Json :=
  .object ([("openapi", .string s.openapi), ("info", s.info.encode)] ++
    unlessEmpty "servers" (fun servers => .array (servers.map Server.encode)) s.servers ++
    unlessEmpty "paths" (Components.encodeKind PathItem.encode) s.paths ++
    optional "components" Components.encode s.components ++
    optional "security" SecurityRequirement.encodeList s.security)

/-- Only documents of the third version are understood. -/
def isSupported (s : Spec) : Bool := "3.".toList.isPrefixOf s.openapi.toList

/-- The component schemas in order. -/
def schemas (s : Spec) : Members Schema :=
  match s.components with
  | some components => components.schemas
  | none => []

/-- The URL of the first server. -/
def defaultServer (s : Spec) : Option String := s.servers.head?.map (·.url)

end Spec

end OpenApi

import OpenApi.Parameter

/-!
Request bodies and responses.
-/

namespace OpenApi

/-- The body that an operation accepts. -/
structure RequestBody where
  description : Option String := none
  content : Content
  required : Bool := false
  deriving Inhabited

/-- One of the responses of an operation; without content it has no body. -/
structure Response where
  description : String := ""
  headers : Members (RefOr Header) := []
  content : Content := []
  deriving Inhabited

namespace RequestBody

open Decode in
/-- Reading a request body. -/
def decode : Decoder Json RequestBody :=
  record "RequestBody" (RequestBody.mk
    <$> optional "description" string
    <*> mandatory "content" Content.decode
    <*> orElse "required" false bool)

/-- Reading a request body or a reference to one. -/
def decodeRef : Decoder Json (RefOr RequestBody) := RefOr.decode "RequestBodyOrRef" decode

open Encode in
/-- Writing a request body. -/
def encode (b : RequestBody) : Json :=
  .object (optional "description" .string b.description ++
    [("content", Content.encode b.content), ("required", .bool b.required)])

end RequestBody

namespace Response

open Decode in
/-- Reading a response. -/
def decode : Decoder Json Response :=
  record "Response" (Response.mk
    <$> orElse "description" "" string
    <*> orElse "headers" [] (map Header.decodeRef)
    <*> orElse "content" [] Content.decode)

/-- Reading a response or a reference to one. -/
def decodeRef : Decoder Json (RefOr Response) := RefOr.decode "ResponseOrRef" decode

open Encode in
/-- Writing a response. -/
def encode (r : Response) : Json :=
  .object ([("description", .string r.description)] ++
    unlessEmpty "headers"
      (fun hs => .object (hs.map fun (name, h) => (name, h.encode Header.encode))) r.headers ++
    unlessEmpty "content" Content.encode r.content)

end Response

end OpenApi

import OpenApi.Json.Decode
import OpenApi.Schema.Decode
import OpenApi.Schema.Encode

/-!
What a body or a parameter looks like under one content type.
-/

namespace OpenApi

/-- The description of content of one type. -/
structure MediaType where
  schema : Option Schema := none
  sample : Option Json := none
  deriving Inhabited

/-- Content types, or patterns of them, with what they look like, in the order of the document. -/
abbrev Content := Members MediaType

namespace MediaType

open Decode in
/-- Reading a media type. -/
def decode : Decoder Json MediaType :=
  record "MediaType" (MediaType.mk
    <$> optional "schema" Schema.decode
    <*> optional "example" any)

open Encode in
/-- Writing a media type. -/
def encode (m : MediaType) : Json :=
  .object (optional "schema" Schema.encode m.schema ++ optional "example" id m.sample)

end MediaType

namespace Content

/-- Reading content. -/
def decode : Decoder Json Content := Decode.map MediaType.decode

/-- Writing content. -/
def encode (content : Content) : Json :=
  .object (content.map fun (name, media) => (name, media.encode))

end Content

end OpenApi

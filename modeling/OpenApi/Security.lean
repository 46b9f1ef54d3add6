import OpenApi.Json.Decode
import OpenApi.Schema.Encode

/-!
Security schemes and requirements. Generated code leaves the handshake to the runtime; what matters
here is whether an operation demands authentication at all.
-/

namespace OpenApi

/-- The kind of a security scheme. -/
inductive SchemeType where
  | apiKey
  | http
  | oauth2
  | openIdConnect
  deriving DecidableEq, Repr, Inhabited

/-- The word for a kind of security scheme. -/
def SchemeType.name : SchemeType → String
  | .apiKey => "apiKey"
  | .http => "http"
  | .oauth2 => "oauth2"
  | .openIdConnect => "openIdConnect"

/-- A security scheme. -/
structure SecurityScheme where
  type : SchemeType
  description : Option String := none
  scheme : Option String := none
  deriving DecidableEq, Repr, Inhabited

/-- Schemes that have to be met together, each with the scopes it has to grant. -/
abbrev SecurityRequirement := Members (List String)

/-- Whether a list of alternatives demands authentication: there are some, and none of them is
empty. -/
def requiresAuthentication (requirements : List SecurityRequirement) : Bool :=
  !requirements.isEmpty && requirements.all fun r => !r.isEmpty

namespace SecurityScheme

open Decode in
/-- Reading a security scheme. -/
def decode : Decoder Json SecurityScheme :=
  record "SecurityScheme" (SecurityScheme.mk
    <$> mandatory "type" (variant
      ([.apiKey, .http, .oauth2, .openIdConnect].map fun t => (SchemeType.name t, t)))
    <*> optional "description" string
    <*> optional "scheme" string)

open Encode in
/-- Writing a security scheme. -/
def encode (s : SecurityScheme) : Json :=
  .object ([("type", .string s.type.name)] ++ optional "description" .string s.description ++
    optional "scheme" .string s.scheme)

end SecurityScheme

namespace SecurityRequirement

open Decode in
/-- Reading a list of requirements. -/
def decodeList : Decoder Json (List SecurityRequirement) := list (map (list string))

/-- Writing a list of requirements. -/
def encodeList (requirements : List SecurityRequirement) : Json :=
  .array (requirements.map fun r => .object (r.map fun (name, scopes) =>
    (name, Encode.strings scopes)))

end SecurityRequirement

end OpenApi

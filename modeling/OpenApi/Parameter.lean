import OpenApi.Media
import OpenApi.Reference

/-!
Parameters of operations and headers of responses.
-/

namespace OpenApi

/-- Where a parameter travels. -/
inductive Location where
  | query
  | header
  | path
  | cookie
  deriving DecidableEq, Repr, Inhabited

/-- The word for a location. -/
def Location.name : Location → String
  | .query => "query"
  | .header => "header"
  | .path => "path"
  | .cookie => "cookie"

/-- How the value of a parameter is laid out. -/
inductive Style where
  | simple
  | form
  | matrix
  | label
  | deepObject
  | spaceDelimited
  | pipeDelimited
  deriving DecidableEq, Repr, Inhabited

/-- The word for a style in a document. -/
def Style.name : Style → String
  | .simple => "simple"
  | .form => "form"
  | .matrix => "matrix"
  | .label => "label"
  | .deepObject => "deepObject"
  | .spaceDelimited => "spaceDelimited"
  | .pipeDelimited => "pipeDelimited"

/-- The word for a style in a message. -/
def Style.title : Style → String
  | .simple => "Simple"
  | .form => "Form"
  | .matrix => "Matrix"
  | .label => "Label"
  | .deepObject => "DeepObject"
  | .spaceDelimited => "SpaceDelimited"
  | .pipeDelimited => "PipeDelimited"

/-- A parameter of an operation. -/
structure Parameter where
  name : String
  location : Location
  description : Option String := none
  required : Bool := false
  deprecated : Option Bool := none
  allowEmptyValue : Bool := false
  schema : Option Schema := none
  content : Content := []
  style : Option Style := none
  explode : Option Bool := none
  /-- the parameter is there or not, and carries no value -/
  isFlag : Bool := false
  deriving Inhabited

/-- A header of a response: a parameter whose name and location are known from where it stands. -/
structure Header where
  description : Option String := none
  required : Bool := false
  schema : Option Schema := none
  content : Content := []
  style : Option Style := none
  explode : Option Bool := none
  deriving Inhabited

open Decode in
/-- Reading a location. -/
def Location.decode : Decoder Json Location :=
  variant ([.query, .header, .path, .cookie].map fun l => (Location.name l, l))

open Decode in
/-- Reading a style. -/
def Style.decode : Decoder Json Style :=
  variant ([.simple, .form, .matrix, .label, .deepObject, .spaceDelimited, .pipeDelimited].map
    fun s => (Style.name s, s))

namespace Parameter

/-- The style that holds: the given one, or the one that is usual at the location. -/
def effectiveStyle (p : Parameter) : Style :=
  p.style.getD <| match p.location with
    | .query | .cookie => .form
    | .path | .header => .simple

/-- Whether arrays and objects are spread over several values; usual for the form style only. -/
def effectiveExplode (p : Parameter) : Bool :=
  p.explode.getD (p.effectiveStyle == .form)

open Decode in
/-- Reading a parameter. -/
def decode : Decoder Json Parameter :=
  record "Parameter" (Parameter.mk
    <$> mandatory "name" string
    <*> mandatory "in" Location.decode
    <*> optional "description" string
    <*> orElse "required" false bool
    <*> optional "deprecated" bool
    <*> orElse "allowEmptyValue" false bool
    <*> optional "schema" Schema.decode
    <*> orElse "content" [] Content.decode
    <*> optional "style" Style.decode
    <*> optional "explode" bool
    <*> orElse "x-isFlag" false bool)

open Encode in
/-- Writing a parameter. -/
def encode (p : Parameter) : Json :=
  .object ([("name", .string p.name), ("in", .string p.location.name)] ++
    optional "description" .string p.description ++
    [("required", .bool p.required)] ++
    optional "deprecated" .bool p.deprecated ++
    [("allowEmptyValue", .bool p.allowEmptyValue)] ++
    optional "schema" Schema.encode p.schema ++
    unlessEmpty "content" Content.encode p.content ++
    optional "style" (fun s => .string s.name) p.style ++
    optional "explode" .bool p.explode ++
    [("x-isFlag", .bool p.isFlag)])

end Parameter

namespace Header

/-- The header as a parameter that travels in a header called `name`. -/
def toParameter (h : Header) (name : String) : Parameter :=
  { name, location := .header, description := h.description, required := h.required,
    schema := h.schema, content := h.content, style := h.style, explode := h.explode }

open Decode in
/-- Reading a header. -/
def decode : Decoder Json Header :=
  record "Header" (Header.mk
    <$> optional "description" string
    <*> orElse "required" false bool
    <*> optional "schema" Schema.decode
    <*> orElse "content" [] Content.decode
    <*> optional "style" Style.decode
    <*> optional "explode" bool)

open Encode in
/-- Writing a header. -/
def encode (h : Header) : Json :=
  .object (optional "description" .string h.description ++
    [("required", .bool h.required)] ++
    optional "schema" Schema.encode h.schema ++
    unlessEmpty "content" Content.encode h.content ++
    optional "style" (fun s => .string s.name) h.style ++
    optional "explode" .bool h.explode)

end Header

/-- Reading a parameter or a reference to one. -/
def Parameter.decodeRef : Decoder Json (RefOr Parameter) :=
  RefOr.decode "ParameterOrRef" Parameter.decode

/-- Reading a header or a reference to one. -/
def Header.decodeRef : Decoder Json (RefOr Header) := RefOr.decode "HeaderOrRef" Header.decode

end OpenApi

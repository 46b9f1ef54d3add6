import OpenApi.Error
import OpenApi.Name
import OpenApi.Spec

/-!
A loaded document: the JSON tree that references are followed in, and the model read from it.
Following references ends: a chain that meets a reference again is reported as a cycle.
-/

namespace OpenApi

/-- Why a text is no document. -/
inductive ParseError where
  | yaml
  | json
  | mismatch (cause : DecodeError)
  | unsupportedVersion (version : String)
  deriving DecidableEq, Repr

/-- The text of a failure to read a document. -/
def ParseError.message : ParseError → String
  | .yaml => "failed to parse YAML"
  | .json => "failed to parse JSON"
  | .mismatch cause => "failed to parse JSON: " ++ cause.message
  | .unsupportedVersion version => "unsupported OpenAPI version: " ++ version

/-- A document. -/
structure Document where
  raw : Json
  spec : Spec
  deriving Inhabited

/-- A kind of part that references can lead to. A `ν` is read where the kind is expected; it is a
reference, or the part itself. -/
structure Kind (ν α : Type) where
  name : String
  decode : Decoder Json ν
  view : ν → String ⊕ α

/-- A schema that is no reference. -/
inductive DirectSchema where
  | bool (accepts : Bool)
  | inline (keywords : Keywords Schema)
  deriving Inhabited

namespace Kind

/-- Whether a part is a reference. -/
def viewRef {α : Type} : RefOr α → String ⊕ α
  | .ref target => .inl target
  | .inline value => .inr value

/-- Schemas. -/
def schema : Kind Schema DirectSchema where
  name := "schema"
  decode := Schema.decode
  view
    | .ref target => .inl target
    | .bool accepts => .inr (.bool accepts)
    | .inline keywords => .inr (.inline keywords)

/-- Parameters. -/
def parameter : Kind (RefOr Parameter) Parameter := ⟨"parameter", Parameter.decodeRef, viewRef⟩

/-- Request bodies. -/
def requestBody : Kind (RefOr RequestBody) RequestBody :=
  ⟨"request body", RequestBody.decodeRef, viewRef⟩

/-- Responses. -/
def response : Kind (RefOr Response) Response := ⟨"response", Response.decodeRef, viewRef⟩

/-- Headers. -/
def header : Kind (RefOr Header) Header := ⟨"header", Header.decodeRef, viewRef⟩

end Kind

namespace Document

/-- The document that a JSON tree holds. -/
def ofJson (raw : Json) : Except ParseError Document := do
  let spec ← (Spec.decode raw).mapError .mismatch
  if spec.isSupported then pure ⟨raw, spec⟩ else throw (.unsupportedVersion spec.openapi)

/-- The value that a reference names. -/
def resolve (doc : Document) (reference : String) : Except ResolveError Json :=
  Pointer.resolve doc.raw reference

/-- The value that a reference names, read as a part called `expected`. -/
def resolveAs {α : Type} (doc : Document) (reference expected : String) (decode : Decoder Json α) :
    Except ResolveError α := do
  let value ← doc.resolve reference
  (decode value).mapError (.undecodable reference expected)

/-- The part at the end of the chain of references that starts at `node`, when those in `seen` have
been followed to get there. -/
def followRefs {ν α : Type} (doc : Document) (kind : Kind ν α) (seen : List String) (node : ν) :
    Nat → Except CompileError α
  | 0 => .error .tooDeep
  | fuel + 1 =>
    match kind.view node with
    | .inr part => .ok part
    | .inl reference =>
      if reference ∈ seen then
        .error (.malformed (.referenceCycle kind.name seen))
      else
        match doc.resolveAs reference kind.name kind.decode with
        | .error cause => .error (.unresolved cause)
        | .ok next => followRefs doc kind (seen ++ [reference]) next fuel

/-- The part itself, references followed. All references after the first one stand in the document,
so a chain of different ones is no longer than the document has values. -/
def deref {ν α : Type} (doc : Document) (kind : Kind ν α) (node : ν) : Except CompileError α :=
  match kind.view node with
  | .inr part => .ok part
  | .inl _ => doc.followRefs kind [] node (doc.raw.size + 3)

/-- The identifier of the schema that a reference names: its title, or else the last segment. -/
def refName (doc : Document) (reference : String) : Except ResolveError String := do
  let target ← doc.resolve reference
  match (target.get? "title").bind Json.string? with
  | some title => pure (Name.identifier title)
  | none =>
    let segment ← Pointer.lastSegment? reference
    pure (Name.identifier (segment.getD "Root"))

end Document

end OpenApi

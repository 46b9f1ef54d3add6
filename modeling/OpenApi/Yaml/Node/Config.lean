import OpenApi.Config
import OpenApi.Yaml.Scalar.Value

/-!
Configurations in YAML. Any scalar does as a text, whatever its tag; where a list, a map or a record
is wanted, nothing written is an empty one.
-/

namespace OpenApi.Yaml

/-- A node of a document. -/
structure Place where
  graph : Graph
  node : Node
  deriving Inhabited

namespace Place

/-- The place with what an alias stands for. -/
def followed (p : Place) : Place :=
  match p.node with
  | .aliasOf number => { p with node := (p.graph.target? number).getD .empty }
  | _ => p

/-- The place of a part of the node. -/
def part (p : Place) (node : Node) : Place := { p with node }

/-- What a node is, in the words of a decoding failure. -/
def found (p : Place) : Found :=
  match p.followed.node with
  | .aliasOf _ => .null
  | .scalar _ _ text => .string text
  | .sequence .. => .sequence
  | .mapping .. => .map

/-- The failure to be what is wanted. -/
def refuse {α : Type} (p : Place) (wanted : Wanted) : Except DecodeError α :=
  .error (.wrongType p.found wanted)

/-- A text. -/
def string : Decoder Place String := fun p =>
  match p.followed.node with
  | .scalar _ _ text => .ok text
  | _ => p.refuse .string

/-- A boolean: a plain scalar, or a literal one with the tag of booleans. -/
def bool : Decoder Place Bool := fun p =>
  match p.followed.node with
  | .scalar properties style text =>
    if style = .plain ∨ (style = .literal ∧ properties.tag = some (coreTag "bool")) then
      match boolText? text with
      | some b => .ok b
      | none => p.refuse .bool
    else p.refuse .bool
  | _ => p.refuse .bool

/-- Whether a plain scalar stands for nothing. -/
def isAbsent (p : Place) : Bool :=
  match p.followed.node with
  | .scalar properties .plain text =>
    match properties.tag with
    | none => text.isEmpty || isNullText text
    | some tag => tag == coreTag "null" && isNullText text
  | _ => false

/-- A list. -/
def list : Decoder Place (List Place) := fun p =>
  match p.followed.node with
  | .sequence _ items => .ok (items.map p.part)
  | .scalar _ .plain "" => .ok []
  | _ => p.refuse .sequence

/-- The pairs of a mapping, whose keys are texts. -/
def pairs (wanted : Wanted) : Decoder Place (List (String × Place)) := fun p =>
  match p.followed.node with
  | .mapping _ pairs => pairs.mapM fun (key, value) => (string (p.part key)).map (·, p.part value)
  | .scalar _ .plain "" => .ok []
  | _ => p.refuse wanted

/-- A record. A field that it knows comes once at most. -/
def record {α : Type} (name : String) (fields : Decode.Part Place α) : Decoder Place α := fun p => do
  let members ← p.pairs (.record name)
  match fields.fields.find? fun field => 1 < (members.filter (·.1 == field.name)).length with
  | some field => throw (.repeated field.name)
  | none => (fields.read members).mapError (·.error)

end Place

end OpenApi.Yaml

namespace OpenApi

/-- Configurations in YAML. -/
def ConfigSource.yaml : ConfigSource Yaml.Place where
  string := Yaml.Place.string
  bool := Yaml.Place.bool
  isAbsent := Yaml.Place.isAbsent
  list := Yaml.Place.list
  map := Yaml.Place.pairs .map
  record := Yaml.Place.record

end OpenApi

import OpenApi.Json.Value
import OpenApi.Json.Writer
import OpenApi.Text.Diagnostic

/-!
Decoding: what can be wrong with a value that should be an instance of the model, the decoders for
single values, and records. A record reports the first bad member in the order of the document;
members that are missing come after all that are bad, in the order of the record. A list may stand
for a record too: it has the members in the order of the record, without their names.
-/

namespace OpenApi

/-- What a decoder met instead of what it wanted. -/
inductive Found where
  | null
  | bool (value : Bool)
  | number (value : JsonNumber)
  | string (value : String)
  | sequence
  | map
  deriving DecidableEq, Repr

/-- What a decoder wanted. -/
inductive Wanted where
  | string
  | bool
  | unsigned
  | sequence
  | map
  | record (name : String)
  | stringOrMap
  | unit
  | singleKeyMap
  /-- a list that stands for a record -/
  | elements (name : String) (count : Nat)
  | fewerElements
  deriving DecidableEq, Repr

/-- Why a value is no instance of the model. -/
inductive DecodeError where
  /-- a value of another type -/
  | wrongType (found : Found) (wanted : Wanted)
  /-- a value of the right type that does not do -/
  | wrongValue (found : Found) (wanted : Wanted)
  /-- a list of another length -/
  | wrongLength (found : Nat) (wanted : Wanted)
  | missing (field : String)
  | repeated (field : String)
  | unknownVariant (name : String) (variants : List String)
  /-- a value that none of the forms of a model type fits -/
  | noForm (name : String)
  deriving DecidableEq, Repr

/-- The words for what was met. -/
def Found.text : Found → String
  | .null => "null"
  | .bool value => "boolean `" ++ toString value ++ "`"
  | .number (.integer value) => "integer `" ++ toString value ++ "`"
  | .number (.binary value) => "floating point `" ++ Json.numberStyle.text value ++ "`"
  | .string value => "string " ++ Text.diagnostic value
  | .sequence => "sequence"
  | .map => "map"

/-- The words for what was wanted. -/
def Wanted.text : Wanted → String
  | .string => "a string"
  | .bool => "a boolean"
  | .unsigned => "u64"
  | .sequence => "a sequence"
  | .map => "a map"
  | .record name => "struct " ++ name
  | .stringOrMap => "string or map"
  | .unit => "unit"
  | .singleKeyMap => "map with a single key"
  | .elements name count =>
    "struct " ++ name ++ " with " ++ toString count ++ (if count = 1 then " element" else " elements")
  | .fewerElements => "fewer elements in array"

/-- The variants of an enumeration, as a message lists them. -/
def variantsText : List String → String
  | [] => "there are no variants"
  | [a] => "expected `" ++ a ++ "`"
  | [a, b] => "expected `" ++ a ++ "` or `" ++ b ++ "`"
  | names => "expected one of " ++ ", ".intercalate (names.map fun n => "`" ++ n ++ "`")

/-- The text of a decoding failure. -/
def DecodeError.message : DecodeError → String
  | .wrongType found wanted => "invalid type: " ++ found.text ++ ", expected " ++ wanted.text
  | .wrongValue found wanted => "invalid value: " ++ found.text ++ ", expected " ++ wanted.text
  | .wrongLength found wanted =>
    "invalid length " ++ toString found ++ ", expected " ++ wanted.text
  | .missing field => "missing field `" ++ field ++ "`"
  | .repeated field => "duplicate field `" ++ field ++ "`"
  | .unknownVariant name variants => "unknown variant `" ++ name ++ "`, " ++ variantsText variants
  | .noForm name => "data did not match any variant of untagged enum " ++ name

/-- What a value is, in the words of a decoding failure. -/
def Json.found : Json → Found
  | .null => .null
  | .bool value => .bool value
  | .number value => .number value
  | .string value => .string value
  | .array _ => .sequence
  | .object _ => .map

/-- A reading of values of type `ν` as instances of `α`. -/
abbrev Decoder (ν α : Type) := ν → Except DecodeError α

namespace Decode

/-! ## Single values -/

/-- A string. -/
def string : Decoder Json String
  | .string value => .ok value
  | other => .error (.wrongType other.found .string)

/-- A boolean. -/
def bool : Decoder Json Bool
  | .bool value => .ok value
  | other => .error (.wrongType other.found .bool)

/-- Any value at all. -/
def any : Decoder Json Json := .ok

/-- An optional value: null stands for its absence. -/
def nullable {α : Type} (decode : Decoder Json α) : Decoder Json (Option α)
  | .null => .ok none
  | value => (decode value).map some

/-- A list. -/
def list {α : Type} (decode : Decoder Json α) : Decoder Json (List α)
  | .array items => items.mapM decode
  | other => .error (.wrongType other.found .sequence)

/-- A map from names. -/
def map {α : Type} (decode : Decoder Json α) : Decoder Json (Members α)
  | .object members => members.mapM fun (name, value) => (decode value).map (name, ·)
  | other => .error (.wrongType other.found .map)

/-- One of the named variants. A variant may also be written as a map from its name to null. -/
def variant {α : Type} (variants : List (String × α)) : Decoder Json α
  | .string name => find name
  | .object [(name, value)] => do
    let found ← find name
    match value with
    | .null => pure found
    | other => throw (.wrongType other.found .unit)
  | .object _ => .error (.wrongValue .map .singleKeyMap)
  | other => .error (.wrongType other.found .stringOrMap)
where
  /-- The variant called `name`. -/
  find (name : String) : Except DecodeError α :=
    match variants.lookup name with
    | some found => .ok found
    | none => .error (.unknownVariant name (variants.map (·.1)))

/-! ## Records -/

/-- A fault of a record, with the place of the bad member; a member that is missing has none. -/
structure Fault where
  place : Option Nat
  error : DecodeError

/-- Whether the first fault is reported rather than the second. -/
def Fault.comesFirst (a b : Fault) : Bool :=
  match a.place, b.place with
  | some i, some j => i ≤ j
  | some _, none => true
  | none, some _ => false
  | none, none => true

/-- A member that a record can have. A list that stands for the record may end before it if it has
a default of its own, and not only stands for nothing when it is missing. -/
structure PartField where
  name : String
  hasDefault : Bool
  deriving DecidableEq, Repr

/-- A part of a record: the members that it knows, and what it reads off those that are there. -/
structure Part (ν α : Type) where
  fields : List PartField
  read : Members ν → Except Fault α

variable {ν α β : Type}

/-- A part that reads nothing. -/
def Part.pure (value : α) : Part ν α := ⟨[], fun _ => .ok value⟩

/-- Two parts of one record: of two faults the first one is reported. -/
def Part.both (f : Part ν (α → β)) (x : Part ν α) : Part ν β where
  fields := f.fields ++ x.fields
  read members :=
    match f.read members, x.read members with
    | .ok f, .ok a => .ok (f a)
    | .error e, .ok _ => .error e
    | .ok _, .error e => .error e
    | .error e, .error e' => .error (if e.comesFirst e' then e else e')

instance : Applicative (Part ν) where
  pure := Part.pure
  seq f x := f.both (x ())

/-- The member `name` and its place, if there is one. -/
def locate (name : String) (place : Nat) : Members ν → Option (Nat × ν)
  | [] => none
  | (other, value) :: rest =>
    if other = name then some (place, value) else locate name (place + 1) rest

/-- A member that stands for `absent` when it is not there. -/
def field (name : String) (hasDefault : Bool) (absent : Except DecodeError α)
    (decode : Decoder ν α) : Part ν α where
  fields := [⟨name, hasDefault⟩]
  read members :=
    match locate name 0 members with
    | some (place, value) => (decode value).mapError (⟨some place, ·⟩)
    | none => absent.mapError (⟨none, ·⟩)

/-- A member that has to be there. -/
def mandatory (name : String) (decode : Decoder ν α) : Part ν α :=
  field name false (.error (.missing name)) decode

/-- A member with a default. -/
def orElse (name : String) (default : α) (decode : Decoder ν α) : Part ν α :=
  field name true (.ok default) decode

/-- An optional member: it may be missing or null. -/
def optional (name : String) (decode : Decoder Json α) : Part Json (Option α) :=
  field name false (.ok none) (nullable decode)

/-- The place of the first of the fields from `place` on that a list must not end before. -/
def firstNeeded (place : Nat) : List PartField → Option Nat
  | [] => none
  | f :: rest => if f.hasDefault then firstNeeded (place + 1) rest else some place

/-- What is read off a list that stands for a record. -/
def Part.readList (part : Part ν α) (name : String) (items : List ν) : Except DecodeError α :=
  let count := part.fields.length
  match part.read ((part.fields.map (·.name)).zip items) with
  | .error ⟨some _, error⟩ => .error error
  | result =>
    match firstNeeded items.length (part.fields.drop items.length) with
    | some place => .error (.wrongLength place (.elements name count))
    | none =>
      if count < items.length then .error (.wrongLength items.length .fewerElements)
      else result.mapError (·.error)

/-- A record of the model. -/
def record (name : String) (part : Part Json α) : Decoder Json α
  | .object members => (part.read members).mapError (·.error)
  | .array items => part.readList name items
  | other => .error (.wrongType other.found (.record name))

end Decode

end OpenApi

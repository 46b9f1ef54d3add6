import OpenApi.Members
import OpenApi.Number.Binary64

/-!
JSON values. The members of an object keep their order, since documents are read and written in
it; a number is an integer of sixty-four bits or a binary64 number, and the two are told apart.
-/

namespace OpenApi

/-- A number of a JSON text. The integers are those of sixty-four bits, with or without sign. -/
inductive JsonNumber where
  | integer (value : Int)
  | binary (value : Binary64)
  deriving DecidableEq, Repr, Inhabited

/-- The binary64 number nearest to a number. -/
def JsonNumber.toBinary64 : JsonNumber → Binary64
  | .integer value => .ofInt value
  | .binary value => value

/-- A JSON value. -/
inductive Json where
  | null
  | bool (value : Bool)
  | number (value : JsonNumber)
  | string (value : String)
  | array (items : List Json)
  | object (members : List (String × Json))
  deriving Inhabited

namespace Json

/-- The member `name`, if the value is an object that has one. -/
def get? (value : Json) (name : String) : Option Json :=
  match value with
  | .object members => Members.get? members name
  | _ => none

/-- The text, if the value is a string. -/
def string? : Json → Option String
  | .string value => some value
  | _ => none

mutual

/-- The number of values in a tree: the value itself and all that it holds. -/
def size : Json → Nat
  | .array items => sizeItems items + 1
  | .object members => sizeMembers members + 1
  | _ => 1

/-- The number of values in the items of an array. -/
def sizeItems : List Json → Nat
  | [] => 0
  | item :: rest => size item + sizeItems rest

/-- The number of values in the members of an object. -/
def sizeMembers : List (String × Json) → Nat
  | [] => 0
  | (_, value) :: rest => size value + sizeMembers rest

end

end Json

end OpenApi

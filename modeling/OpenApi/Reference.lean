import OpenApi.Json.Decode
import OpenApi.Schema.Decode

/-!
Parts of a document that may be replaced by a reference to one.
-/

namespace OpenApi

/-- An `α`, or a reference to one. -/
inductive RefOr (α : Type) where
  | ref (target : String)
  | inline (value : α)
  deriving Inhabited, DecidableEq, Repr

namespace RefOr

variable {α : Type}

/-- Reading an object with a string under `$ref` as a reference and anything else as an `α`.
Whatever is wrong inside, the whole is at fault, under the name of the type. -/
def decode (name : String) (inner : Decoder Json α) : Decoder Json (RefOr α) := fun value =>
  let target := match value with
    | .object members => Schema.target? members
    | _ => none
  match target, inner value with
  | some pointer, _ => .ok (.ref pointer)
  | none, .ok read => .ok (.inline read)
  | none, .error _ => .error (.noForm name)

/-- Writing it. -/
def encode (inner : α → Json) : RefOr α → Json
  | .ref target => .object [("$ref", .string target)]
  | .inline value => inner value

end RefOr

end OpenApi

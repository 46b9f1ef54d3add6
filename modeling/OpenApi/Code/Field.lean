import OpenApi.Code

/-!
Fields of object types, and arguments of functions.
-/

namespace OpenApi

/-- A name with its type. -/
structure Field where
  name : String
  type : Code
  optional : Bool := false
  /-- the name stands as it is, and not as a quoted key -/
  raw : Bool := false
  deriving DecidableEq, Repr

namespace Field

/-- The field as it is declared. -/
def declaration (f : Field) : Code :=
  let key := if f.raw then f.name else Text.quoted f.name
  Code.site (key ++ if f.optional then "?: " else ": ") ++ f.type

/-- The object type with the given fields. -/
def objectType : List Field → Code
  | [] => "\x7b\x7d"
  | fields => (Code.join "; " (fields.map declaration)).braced

/-- The arguments of a function. -/
def arguments (fields : List Field) : Code := Code.join ", " (fields.map declaration)

end Field

end OpenApi

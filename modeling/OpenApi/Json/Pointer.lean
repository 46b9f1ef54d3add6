import OpenApi.Json.Decode
import OpenApi.Text.Natural
import OpenApi.Text.Replace
import OpenApi.Text.Split

/-!
References into a document: `#` followed by a pointer, each segment of which is the name of a
member or the index of an item, with `~` and `/` escaped as `~0` and `~1`.
-/

namespace OpenApi

/-- Why a reference does not lead to a value of the wanted kind. -/
inductive ResolveError where
  | notAbsolute (reference : String)
  | notFound (reference segment : String)
  /-- a segment below a value that has no such parts -/
  | mismatch (reference segment found : String)
  | undecodable (reference expected : String) (cause : DecodeError)
  deriving DecidableEq, Repr

/-- The text of a failure to resolve. -/
def ResolveError.message : ResolveError → String
  | .notAbsolute reference =>
    "reference is not an absolute in-document pointer: " ++ reference
  | .notFound reference segment =>
    "reference target not found: segment '" ++ segment ++ "' of " ++ reference
  | .mismatch reference segment found =>
    "cannot index " ++ found ++ " with '" ++ segment ++ "' in " ++ reference
  | .undecodable reference expected cause =>
    "reference " ++ reference ++ " does not point at a valid " ++ expected ++ ": " ++ cause.message

namespace Pointer

/-- A segment as it stands in a pointer. -/
def escape (segment : String) : String :=
  String.ofList (segment.toList.flatMap fun c =>
    if c = '~' then ['~', '0'] else if c = '/' then ['~', '1'] else [c])

/-- The segment that stands in a pointer as `segment`: first the escapes of `/` are undone, then
those of `~`, so that `~01` means `~1`. -/
def unescape (segment : String) : String :=
  String.ofList (Text.replacePair '~' '0' ['~'] (Text.replacePair '~' '1' ['/'] segment.toList))

/-- The segments of a reference. -/
def segments (reference : String) : Except ResolveError (List String) :=
  match reference.toList with
  | ['#'] => .ok []
  | '#' :: '/' :: rest => .ok ((Text.split '/' rest).map fun s => unescape (String.ofList s))
  | _ => .error (.notAbsolute reference)

/-- The last segment of a reference. -/
def lastSegment? (reference : String) : Except ResolveError (Option String) :=
  (segments reference).map List.getLast?

/-- The reference to the component schema called `name`. -/
def ofSchema (name : String) : String := "#/components/schemas/" ++ escape name

/-- What a value is, in the words of a failure to resolve. -/
def kindOf : Json → String
  | .null => "null"
  | .bool _ => "a boolean"
  | .number _ => "a number"
  | .string _ => "a string"
  | .array _ => "an array"
  | .object _ => "an object"

/-- One step down: the part of a value that a segment of `reference` names. -/
def step (reference segment : String) : Json → Except ResolveError Json
  | .object members =>
    match Members.get? members segment with
    | some value => .ok value
    | none => .error (.notFound reference segment)
  | .array items =>
    match Text.natural? Text.maxWord64 segment with
    | none => .error (.mismatch reference segment "an array")
    | some index =>
      match items[index]? with
      | some value => .ok value
      | none => .error (.notFound reference segment)
  | other => .error (.mismatch reference segment (kindOf other))

/-- The value that a list of segments leads to. -/
def follow (reference : String) : List String → Json → Except ResolveError Json
  | [], value => .ok value
  | segment :: rest, value => do follow reference rest (← step reference segment value)

/-- The value that a reference names in the document `root`. -/
def resolve (root : Json) (reference : String) : Except ResolveError Json := do
  follow reference (← segments reference) root

example : unescape "~01" = "~1" ∧ escape "a/b~c" = "a~1b~0c" := by decide

end Pointer

end OpenApi

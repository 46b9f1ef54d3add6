import OpenApi.Code
import OpenApi.Text.Replace

/-!
Paths with placeholders, such as `/pets/{petId}`: their parts, the route that a server matches, and
the template literal that a client fills in.
-/

namespace OpenApi

/-- A part of a path. -/
inductive PathPart where
  | literal (text : String)
  | placeholder (name : String)
  deriving DecidableEq, Repr, Inhabited

/-- A path in parts. -/
abbrev PathTemplate := List PathPart

namespace PathTemplate

/-- Text as a part, if there is any. -/
def literal (text : List Char) : List PathPart :=
  if text.isEmpty then [] else [.literal (String.ofList text)]

/-- The parts of a path. A placeholder goes from a brace that opens to the first one that closes; a
brace that is not closed is text like any other. -/
def ofChars (path : List Char) : List PathPart :=
  let before := path.takeWhile (· ≠ '\x7b')
  match _opened : path.dropWhile (· ≠ '\x7b') with
  | [] => literal path
  | _ :: inside =>
    match _closed : inside.dropWhile (· ≠ '\x7d') with
    | [] => literal path
    | _ :: rest =>
      literal before ++
        .placeholder (String.ofList (inside.takeWhile (· ≠ '\x7d'))) :: ofChars rest
termination_by path.length
decreasing_by
  have h₁ := (List.dropWhile_suffix (l := path) (· ≠ '\x7b')).length_le
  have h₂ := (List.dropWhile_suffix (l := inside) (· ≠ '\x7d')).length_le
  rw [_opened, List.length_cons] at h₁
  rw [_closed, List.length_cons] at h₂
  omega

/-- The parts of a path. -/
def ofString (path : String) : PathTemplate := ofChars path.toList

/-- The names of the placeholders. -/
def placeholders (t : PathTemplate) : List String :=
  t.filterMap fun
    | .literal _ => none
    | .placeholder name => some name

/-- Text inside a template literal: a backslash goes before what would end it or open a hole. -/
def escape (text : String) : List Char :=
  let escaped := text.toList.flatMap fun c =>
    if c = '\\' then ['\\', '\\'] else if c = '\x60' then ['\\', '\x60'] else [c]
  Text.replacePair '$' '\x7b' ['\\', '$', '\x7b'] escaped

/-- A template literal with `f name` in the place of every placeholder. -/
def render (t : PathTemplate) (f : String → Code) : Code :=
  let parts := t.map fun
    | .literal text => Code.site (String.ofList (escape text))
    | .placeholder name => Code.cat ["$\x7b", f name, "\x7d"]
  Code.cat [("\x60" : Code), Code.cat parts, "\x60"]

/-- The path with `:name` in the place of every placeholder. -/
def route (t : PathTemplate) : String :=
  String.join (t.map fun
    | .literal text => text
    | .placeholder name => ":" ++ name)

end PathTemplate

end OpenApi

import OpenApi.Code
import OpenApi.Text.Blank

/-!
Expression templates: a body in which a parameter stands for the value that the template is applied
to. The body is never run; the value goes in wherever the parameter occurs as an identifier of its
own, outside of string literals, of the text of template literals, of numbers and of property names
after a dot.
-/

namespace OpenApi

/-- A part of the body of a template. -/
inductive Template.Piece where
  | text (text : String)
  | hole
  deriving DecidableEq, Repr

/-- A template. -/
structure Template where
  parameter : String
  pieces : List Template.Piece
  deriving DecidableEq, Repr

/-- Why a template is refused. -/
inductive TemplateError where
  | parameter (name : String)
  | emptyBody
  deriving DecidableEq, Repr

/-- The text of a refusal. -/
def TemplateError.message : TemplateError → String
  | .parameter name => "parameter '" ++ name ++ "' is not an identifier"
  | .emptyBody => "empty body"

namespace Template

/-! ## Reading a body -/

/-- Where in a body a scan stands. -/
inductive Mode where
  /-- in code, inside so many braces -/
  | code (depth : Nat)
  /-- in a string literal with the given quotes -/
  | quote (mark : Char)
  /-- in the text of a template literal -/
  | literal
  deriving DecidableEq, Repr

/-- The state of a scan: the innermost mode, the modes around it, and the last character of code
that was no blank, with `a` for every identifier and `0` for every number. -/
structure Scan where
  mode : Mode := .code 0
  outer : List Mode := []
  previous : Option Char := none
  deriving DecidableEq, Repr

/-- Into a literal inside the current one. -/
def Scan.enter (s : Scan) (mode : Mode) : Scan := { s with mode, outer := s.mode :: s.outer }

/-- Out of the current literal, after its last character `c`. -/
def Scan.leave (s : Scan) (c : Char) : Scan :=
  match s.outer with
  | [] => { s with mode := .code 0, previous := some c }
  | mode :: outer => { mode, outer, previous := some c }

/-- The state after a brace that closes: out of the hole of a template literal, or one brace
less. -/
def Scan.closeBrace (s : Scan) (depth : Nat) : Scan :=
  match depth, s.outer with
  | 0, _ :: _ => s.leave '\x7d'
  | depth, _ => { s with mode := .code (depth - 1), previous := some '\x7d' }

/-- Characters of a number after its first digit. -/
def isNumberPart (c : Char) : Bool := c.isAlphanum || c == '.'

/-- Puts text that was read before the first of the pieces. -/
def prepend (text : List Char) : List Piece → List Piece
  | .text t :: pieces => .text (String.ofList text ++ t) :: pieces
  | pieces => if text.isEmpty then pieces else .text (String.ofList text) :: pieces

/-- The pieces of a body from the state `s` on. -/
def split (parameter : List Char) (s : Scan) : List Char → List Piece
  | [] => []
  | c :: rest =>
    match s.mode with
    | .quote mark =>
      if c = '\\' then
        match rest with
        | [] => prepend [c] []
        | d :: rest => prepend [c, d] (split parameter s rest)
      else if c = mark then prepend [c] (split parameter (s.leave c) rest)
      else prepend [c] (split parameter s rest)
    | .literal =>
      if c = '\\' then
        match rest with
        | [] => prepend [c] []
        | d :: rest => prepend [c, d] (split parameter s rest)
      else if c = '\x60' then prepend [c] (split parameter (s.leave c) rest)
      else
        match rest with
        | [] => prepend [c] []
        | d :: more =>
          if c = '$' ∧ d = '\x7b' then
            prepend [c, d] (split parameter { s.enter (.code 0) with previous := some d } more)
          else
            prepend [c] (split parameter s (d :: more))
    | .code depth =>
      if c = '"' ∨ c = '\'' then prepend [c] (split parameter (s.enter (.quote c)) rest)
      else if c = '\x60' then prepend [c] (split parameter (s.enter .literal) rest)
      else if c = '\x7b' then
        prepend [c]
          (split parameter { s with mode := .code (depth + 1), previous := some c } rest)
      else if c = '\x7d' then prepend [c] (split parameter (s.closeBrace depth) rest)
      else if c.isDigit then
        let digits := c :: rest.takeWhile isNumberPart
        prepend digits
          (split parameter { s with previous := some '0' } (rest.dropWhile isNumberPart))
      else if Name.isIdentifierStart c then
        let word := c :: rest.takeWhile Name.isIdentifierPart
        let after :=
          split parameter { s with previous := some 'a' } (rest.dropWhile Name.isIdentifierPart)
        if word = parameter ∧ s.previous ≠ some '.' then .hole :: after else prepend word after
      else
        let previous := if Text.isBlank c then s.previous else some c
        prepend [c] (split parameter { s with previous } rest)
termination_by body => body.length
decreasing_by
  all_goals simp only [List.length_cons]
  all_goals first
    | omega
    | exact Nat.lt_succ_of_le (List.dropWhile_suffix _).length_le

/-- The template of a parameter and a body whose outer blanks do not count. -/
def ofBody (parameter body : String) : Template :=
  ⟨parameter, split parameter.toList {} (Text.trimChars body.toList)⟩

/-- An identifier. -/
def isIdentifier (name : String) : Bool :=
  match name.toList with
  | [] => false
  | c :: rest => Name.isIdentifierStart c && rest.all Name.isIdentifierPart

/-- The template of a parameter and a body, if the parameter is an identifier and the body is not
blank. -/
def new (parameter body : String) : Except TemplateError Template :=
  if !isIdentifier parameter then .error (.parameter parameter)
  else if (Text.trimChars body.toList).isEmpty then .error .emptyBody
  else .ok (ofBody parameter body)

/-! ## Applying a template -/

/-- What a piece contributes when the template is applied: its own text, or the value. -/
def Piece.code (value : Code) (origin : Origin) : Piece → Code
  | .text body => .tagged body origin
  | .hole => value.parenthesized

/-- The body with the value in place of the parameter. -/
def apply (t : Template) (value : Code) (origin : Origin) : Code :=
  Code.cat (t.pieces.map (Piece.code value origin))

/-- Whether the template gives back the value that it is applied to, as far as the value `value`
shows. -/
def isIdentity (t : Template) : Bool := (t.apply "value" .preamble).render == "value"

end Template

end OpenApi

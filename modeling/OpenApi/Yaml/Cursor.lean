/-!
Reading a YAML text from left to right: the characters that matter everywhere, and the place that
has been reached.
-/

namespace OpenApi.Yaml

/-! ## Characters -/

/-- Characters that a text can hold. -/
def isAllowed (c : Char) : Bool :=
  let n := c.toNat
  n == 0x9 || n == 0xa || n == 0xd || (0x20 ≤ n && n ≤ 0x7e) || n == 0x85 ||
    (0xa0 ≤ n && n ≤ 0xfffd) || 0x10000 ≤ n

/-- A space or a tab. -/
def isSpace (c : Char) : Bool := c == ' ' || c == '\t'

/-- Characters that end a line. -/
def isBreak (c : Char) : Bool :=
  c == '\n' || c == '\r' || c == '\u0085' || c == '\u2028' || c == '\u2029'

/-- Characters of names. -/
def isWordChar (c : Char) : Bool := c.isAlphanum || c == '_' || c == '-'

/-- Whether a text begins with a space, a tab or a line break, or is over. -/
def isGap : List Char → Bool
  | [] => true
  | c :: _ => isSpace c || isBreak c

/-- Whether a text begins with a space or a tab. -/
def isSpaced : List Char → Bool
  | [] => false
  | c :: _ => isSpace c

/-! ## Places -/

/-- A place in a text: what is ahead, how many characters are behind, and where in which line. -/
structure Cursor where
  rest : List Char
  /-- the number of characters ahead, which bounds every reading from here -/
  left : Nat := rest.length
  index : Nat := 0
  line : Nat := 0
  column : Nat := 0
  left_eq : left = rest.length := by rfl

namespace Cursor

/-- The place so many characters further in the line. -/
def advance (c : Cursor) (count : Nat) : Cursor where
  rest := c.rest.drop count
  left := c.left - count
  index := c.index + count
  line := c.line
  column := c.column + count
  left_eq := by rw [c.left_eq, List.length_drop]

/-- The characters of the line that are ahead as long as they satisfy `p`, and the place after
them. -/
def span (p : Char → Bool) (c : Cursor) : List Char × Cursor :=
  let taken := c.rest.takeWhile p
  (taken, c.advance taken.length)

/-- The place that `rest` stands at, further in the line. -/
def upTo (c : Cursor) (rest : List Char) : Cursor := c.advance (c.left - rest.length)

/-- The line break that is ahead, if there is one, and the place after it. All breaks count as a
line feed except for the separators of lines and paragraphs, which stand for themselves. -/
def break? (c : Cursor) : Option (List Char × Cursor) :=
  let after (width : Nat) : Cursor := { c.advance width with line := c.line + 1, column := 0 }
  match c.rest with
  | '\r' :: '\n' :: _ => some (['\n'], after 2)
  | ch :: _ =>
    if ch = '\u2028' ∨ ch = '\u2029' then some ([ch], after 1)
    else if isBreak ch then some (['\n'], after 1)
    else none
  | [] => none

/-- Whether a line begins here with one of the marks that begin and end a document. -/
def atDocumentMark (c : Cursor) : Bool :=
  c.column == 0 && (match c.rest with
    | '-' :: '-' :: '-' :: rest => isGap rest
    | '.' :: '.' :: '.' :: rest => isGap rest
    | _ => false)

/-- The place after spaces, tabs and a comment; `none` if more than that is left of the line. -/
def lineEnd? (c : Cursor) : Option Cursor :=
  let c := (c.span isSpace).2
  let c := if c.rest.head? = some '#' then (c.span (!isBreak ·)).2 else c
  match c.break? with
  | some (_, next) => some next
  | none => if c.rest.isEmpty then some c else none

end Cursor

end OpenApi.Yaml

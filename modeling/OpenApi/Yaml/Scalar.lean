import OpenApi.Text.Natural
import OpenApi.Yaml.Gap

/-!
The texts of scalars in their five styles.
-/

namespace OpenApi.Yaml

/-- How a scalar is written. -/
inductive ScalarStyle where
  | plain
  | singleQuoted
  | doubleQuoted
  | literal
  | folded
  deriving DecidableEq, Repr, Inhabited

/-- A scalar that has been read: its text, the place after it, and whether that is at the beginning
of a line as far as the scalar could see. -/
structure ScalarText where
  text : List Char
  next : Cursor
  startsLine : Bool := false

/-! ## Plain scalars -/

/-- Characters that end a plain scalar inside a flow collection. -/
def isFlowEnd (c : Char) : Bool := c == ',' || c == '[' || c == ']' || c == '\x7b' || c == '\x7d'

/-- The word of a plain scalar at the beginning of a text. A colon ends it before a gap; inside a flow
collection it must not stand before other indicators. -/
def plainWord (inFlow : Bool) : List Char → Option (List Char)
  | [] => some []
  | c :: rest =>
    let isClash := match rest with
      | d :: _ => isFlowEnd d || d == '?'
      | [] => false
    if isSpace c || isBreak c then some []
    else if inFlow && c == ':' && isClash then none
    else if (c == ':' && isGap rest) || (inFlow && isFlowEnd c) then some []
    else (plainWord inFlow rest).map (c :: ·)

/-- A plain scalar from one of its words on; `done` has the texts before it, the last one first, and
`gap` stands between. Its further lines begin at the column `indent` or behind it. -/
def plainFrom (inFlow : Bool) (indent : Nat) (done : List (List Char)) (gap : Gap) (c : Cursor) :
    Nat → Option ScalarText
  | 0 => none
  | fuel + 1 =>
    let ended (done : List (List Char)) (gap : Gap) (c : Cursor) : ScalarText :=
      { text := done.reverse.flatten, next := c, startsLine := gap.isFolded }
    if c.atDocumentMark || c.rest.head? == some '#' then some (ended done gap c)
    else
      match plainWord inFlow c.rest with
      | none => none
      | some [] => some (ended done gap c)
      | some word =>
        let done := word :: gap.text :: done
        let c := c.advance word.length
        if c.rest.isEmpty || !isGap c.rest then some (ended done {} c)
        else
          match Gap.ahead indent {} c with
          | none => none
          | some (gap, c) =>
            if !inFlow && decide (c.column < indent) then some (ended done gap c)
            else plainFrom inFlow indent done gap c fuel

/-- The plain scalar ahead. -/
def readPlain (inFlow : Bool) (indent : Nat) (c : Cursor) : Option ScalarText :=
  plainFrom inFlow indent [] {} c (c.left + 1)

/-! ## Quoted scalars -/

/-- The character for a letter behind a backslash. -/
def escape? : Char → Option Char
  | '0' => some '\x00'
  | 'a' => some '\x07'
  | 'b' => some '\x08'
  | 't' => some '\t'
  | '\t' => some '\t'
  | 'n' => some '\n'
  | 'v' => some '\x0b'
  | 'f' => some '\x0c'
  | 'r' => some '\r'
  | 'e' => some '\x1b'
  | ' ' => some ' '
  | '"' => some '"'
  | '/' => some '/'
  | '\\' => some '\\'
  | 'N' => some '\u0085'
  | '_' => some '\u00a0'
  | 'L' => some '\u2028'
  | 'P' => some '\u2029'
  | _ => none

/-- The number of hexadecimal digits after a letter behind a backslash. -/
def escapeWidth? : Char → Option Nat
  | 'x' => some 2
  | 'u' => some 4
  | 'U' => some 8
  | _ => none

/-- The character whose code the first `width` characters of a text write in hexadecimal. -/
def codePoint? (width : Nat) (text : List Char) : Option Char := do
  let digits ← (text.take width).mapM Text.hexValue?
  let code := digits.foldl (fun n d => 16 * n + d) 0
  if digits.length = width ∧ code.isValidChar then some (Char.ofNat code) else none

/-- The word of a single-quoted scalar at the beginning of a text, and how many characters write
it. -/
def singleWord : List Char → List Char × Nat
  | '\'' :: '\'' :: rest =>
    let (word, width) := singleWord rest
    ('\'' :: word, width + 2)
  | c :: rest =>
    if c == '\'' || isSpace c || isBreak c then ([], 0)
    else
      let (word, width) := singleWord rest
      (c :: word, width + 1)
  | [] => ([], 0)

/-- The word of a double-quoted scalar at the beginning of a text, and how many characters write it.
A backslash before a line break is left where it is. -/
def doubleWord (text : List Char) : Nat → Option (List Char × Nat)
  | 0 => none
  | fuel + 1 =>
    let continued (c : Char) (taken : Nat) : Option (List Char × Nat) :=
      (doubleWord (text.drop taken) fuel).map fun (word, width) => (c :: word, width + taken)
    match text with
    | [] => some ([], 0)
    | ['\\'] => none
    | '\\' :: letter :: rest =>
      if isBreak letter then some ([], 0)
      else
        match escape? letter, escapeWidth? letter with
        | some c, _ => continued c 2
        | none, none => none
        | none, some digits =>
          match codePoint? digits rest with
          | none => none
          | some c => continued c (2 + digits)
    | c :: _ => if c == '"' || isSpace c || isBreak c then some ([], 0) else continued c 1

/-- A quoted scalar from one of its words on, behind the texts `done`. -/
def quotedFrom (isDouble : Bool) (done : List (List Char)) (c : Cursor) :
    Nat → Option ScalarText
  | 0 => none
  | fuel + 1 =>
    if c.atDocumentMark then none
    else
      let word := if isDouble then doubleWord c.rest (c.left + 1) else some (singleWord c.rest)
      match word with
      | none => none
      | some (word, width) =>
        let c := c.advance width
        let done := word :: done
        let afterGap (gap : Gap) (c : Cursor) : Option ScalarText :=
          match Gap.ahead 0 gap c with
          | none => none
          | some (gap, c) => quotedFrom isDouble (gap.text :: done) c fuel
        match c.rest with
        | [] => none
        | '\\' :: _ =>
          match (c.advance 1).break? with
          | none => none
          | some (_, c) => afterGap { first := some [] } c
        | ch :: _ =>
          if isSpace ch || isBreak ch then afterGap {} c
          else some { text := done.reverse.flatten, next := c.advance 1 }

/-- The quoted scalar whose first quote is ahead. -/
def readQuoted (isDouble : Bool) (c : Cursor) : Option ScalarText :=
  quotedFrom isDouble [] (c.advance 1) (c.left + 1)

/-! ## Block scalars -/

/-- What becomes of the line breaks at the end of a block scalar. -/
inductive Chomping where
  | strip
  | clip
  | keep
  deriving DecidableEq, Repr, Inhabited

/-- The head of a block scalar: how it ends, and how much deeper than its parent it stands, if that
is said. -/
structure BlockHead where
  chomping : Chomping := .clip
  increment : Option Nat := none
  deriving DecidableEq, Repr, Inhabited

/-- An indicator for the end of a block scalar. -/
def chomping? : Char → Option Chomping
  | '-' => some .strip
  | '+' => some .keep
  | _ => none

/-- The head of a block scalar, behind the indicator of its style; at most one indicator for its
end and one digit, which is not zero, in either order. -/
def blockHead (c : Cursor) : Option (BlockHead × Cursor) :=
  let digit? (ch : Char) : Option Nat :=
    if ch.isDigit then some (ch.toNat - '0'.toNat) else none
  let checked (head : BlockHead) (c : Cursor) : Option (BlockHead × Cursor) :=
    if head.increment = some 0 then none else some (head, c)
  match c.rest with
  | [] => some ({}, c)
  | first :: rest =>
    match chomping? first, digit? first with
    | some chomping, _ =>
      match rest.head?.bind digit? with
      | some n => checked { chomping, increment := some n } (c.advance 2)
      | none => some ({ chomping }, c.advance 1)
    | none, some n =>
      match rest.head?.bind chomping? with
      | some chomping => checked { chomping, increment := some n } (c.advance 2)
      | none => checked { increment := some n } (c.advance 1)
    | none, none => some ({}, c)

/-- The empty lines ahead: their line breaks, the place after them and after the indentation of the
next line, and the rightmost column on the way. The indentation goes up to the column `indent`, or
as far as there are spaces; no tab can be part of it. -/
def emptyLines (indent : Option Nat) (breaks : List Char) (rightmost : Nat) (c : Cursor) :
    Nat → Option (List Char × Cursor × Nat)
  | 0 => none
  | fuel + 1 =>
    let spaces := (c.rest.takeWhile (· == ' ')).length
    let c := c.advance (match indent with
      | none => spaces
      | some n => min spaces (n - c.column))
    let rightmost := max rightmost c.column
    let isShort := match indent with
      | none => true
      | some n => decide (c.column < n)
    if isShort && c.rest.head? == some '\t' then none
    else
      match c.break? with
      | some (lineBreak, next) => emptyLines indent (breaks ++ lineBreak) rightmost next fuel
      | none => some (breaks, c, rightmost)

/-- The empty lines ahead. -/
def emptyLinesAhead (indent : Option Nat) (c : Cursor) : Option (List Char × Cursor × Nat) :=
  emptyLines indent [] 0 c (c.left + 1)

/-- A block scalar that is being read: the texts so far, the last one first; the break of the last
line, those of the empty lines after it, and whether the line began with a space. -/
structure BlockText where
  done : List (List Char) := []
  lineBreak : List Char := []
  emptyBreaks : List Char
  spaced : Bool := false
  deriving Inhabited

/-- What stands between the last line and the next one. The line break between two lines of a folded
scalar is a space, unless one of them begins with a space or empty lines are between them. -/
def BlockText.glue (t : BlockText) (isLiteral nextSpaced : Bool) : List Char :=
  if !isLiteral && t.lineBreak == ['\n'] && !t.spaced && !nextSpaced then
    if t.emptyBreaks.isEmpty then [' '] else t.emptyBreaks
  else t.lineBreak ++ t.emptyBreaks

/-- The lines of a block scalar from one of them on. -/
def blockFrom (isLiteral : Bool) (indent : Nat) (t : BlockText) (c : Cursor) :
    Nat → Option (BlockText × Cursor)
  | 0 => none
  | fuel + 1 =>
    if c.column ≠ indent ∨ c.rest.isEmpty then some (t, c)
    else
      let spaced := isSpaced c.rest
      let (line, c) := c.span (!isBreak ·)
      let (lineBreak, c) := (c.break?).getD ([], c)
      match emptyLinesAhead (some indent) c with
      | none => none
      | some (emptyBreaks, c, _) =>
        blockFrom isLiteral indent
          { done := line :: t.glue isLiteral spaced :: t.done, lineBreak, emptyBreaks, spaced } c
          fuel

/-- The block scalar whose indicator is ahead, inside a block at the column `parent`; that is none
for the outermost one. -/
def readBlock (isLiteral : Bool) (parent : Option Nat) (c : Cursor) : Option ScalarText := do
  let (head, c) ← blockHead (c.advance 1)
  let c ← c.lineEnd?
  let given := head.increment.map fun n => (parent.getD 0) + n
  let (emptyBreaks, c, rightmost) ← emptyLinesAhead given c
  let least := match parent with
    | none => 1
    | some n => n + 1
  let indent := given.getD (max rightmost least)
  let (t, c) ← blockFrom isLiteral indent { emptyBreaks } c (c.left + 1)
  let tail := match head.chomping with
    | .strip => []
    | .clip => t.lineBreak
    | .keep => t.lineBreak ++ t.emptyBreaks
  pure { text := (tail :: t.done).reverse.flatten, next := c, startsLine := true }

end OpenApi.Yaml

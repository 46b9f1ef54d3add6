import OpenApi.Yaml.Token

/-!
The tokens of a text. What begins and ends a block is its column: the columns of the blocks around
are known, and a token in a further column than theirs may begin a block, while one in a lesser
column ends blocks. A key without its indicator shows itself only by the colon behind it, so the
place of every token that may have been a key is kept until then; a key is in one line and not
longer than 1024 characters.
-/

namespace OpenApi.Yaml

/-- A place where a key without its indicator may have begun. -/
structure KeyStart where
  /-- the number of tokens before it -/
  number : Nat
  /-- whether nothing but a key can be there -/
  required : Bool
  index : Nat
  line : Nat
  column : Nat
  deriving DecidableEq, Repr, Inhabited

/-- How far a text has been read. -/
structure Lexer where
  cursor : Cursor
  tokens : Array Token := #[]
  /-- the columns of the blocks around, the innermost one first -/
  blocks : List Nat := []
  /-- whether a key without its indicator may begin here -/
  keyAllowed : Bool := true
  /-- where one may have begun in the collection around -/
  keyStart : Option KeyStart := none
  /-- where one may have begun in those around the flow collections around, the innermost one
  first -/
  outer : List (Option KeyStart) := []

namespace Lexer

/-- Whether a flow collection is around. -/
def inFlow (l : Lexer) : Bool := !l.outer.isEmpty

/-- One more token. -/
def push (l : Lexer) (token : Token) : Lexer := { l with tokens := l.tokens.push token }

/-- So many characters further. -/
def advance (l : Lexer) (count : Nat) : Lexer := { l with cursor := l.cursor.advance count }

/-! ## Blocks -/

/-- Ends the blocks whose columns satisfy `p`, from the innermost one on. There are no blocks in
flow collections. -/
def closeBlocks (l : Lexer) (p : Nat → Bool) : Lexer :=
  if l.inFlow then l
  else
    { l with
      tokens := l.tokens ++ Array.replicate (l.blocks.takeWhile p).length .blockEnd
      blocks := l.blocks.dropWhile p }

/-- Begins a block at a column, unless one has begun there; its first token goes to the place
`number`. -/
def openBlock (l : Lexer) (first : Token) (column number : Nat) : Lexer :=
  if l.inFlow || l.blocks.head?.any (column ≤ ·) then l
  else
    { l with
      tokens := l.tokens.insertIdxIfInBounds number first
      blocks := column :: l.blocks }

/-! ## Keys -/

/-- Gives up the key that may have begun; `none` if it has to be one. -/
def dropKey (l : Lexer) : Option Lexer :=
  if l.keyStart.any (·.required) then none else some { l with keyStart := none }

/-- The place of the next token as one where a key may begin. -/
def markKey (l : Lexer) : Option Lexer :=
  if l.keyAllowed then
    l.dropKey.map fun l =>
      { l with
        keyStart := some
          { number := l.tokens.size
            required := !l.inFlow && l.blocks.head? == some l.cursor.column
            index := l.cursor.index, line := l.cursor.line, column := l.cursor.column } }
  else some l

/-- Whether what began there has become too long for a key. -/
def KeyStart.isOver (k : KeyStart) (c : Cursor) : Bool :=
  k.line < c.line || k.index + 1024 < c.index

/-- Gives up the keys that have become too long; `none` if one of them has to be a key. -/
def dropOverlong (l : Lexer) : Option Lexer := do
  let check (start : Option KeyStart) : Option (Option KeyStart) :=
    match start with
    | some k => if !KeyStart.isOver k l.cursor then some start
      else if k.required then none else some none
    | none => some none
  pure { l with keyStart := ← check l.keyStart, outer := ← l.outer.mapM check }

/-! ## Gaps -/

/-- The place of the next token, past gaps and comments. After a line break a key may begin, if no
flow collection is around; a tab does not count as a gap where a block key may begin. -/
def skipGaps (l : Lexer) : Nat → Lexer
  | 0 => l
  | fuel + 1 =>
    let c := l.cursor
    let c := if c.index = 0 ∧ c.rest.head? = some '\ufeff' then c.advance 1 else c
    let tabs := l.inFlow || !l.keyAllowed
    let c := (c.span fun ch => ch == ' ' || (tabs && ch == '\t')).2
    let c := if c.rest.head? = some '#' then (c.span (!isBreak ·)).2 else c
    match c.break? with
    | some (_, next) =>
      skipGaps { l with cursor := next, keyAllowed := l.keyAllowed || !l.inFlow } fuel
    | none => { l with cursor := c }

/-! ## Tokens -/

/-- A directive. -/
def directive (l : Lexer) : Option Lexer := do
  let l ← (l.closeBlocks fun _ => true).dropKey
  let (directive, cursor) ← readDirective l.cursor
  pure { l.push (.directive directive) with cursor, keyAllowed := false }

/-- The mark of the beginning or the end of a document. -/
def documentMark (l : Lexer) (mark : Token) : Option Lexer := do
  let l ← (l.closeBlocks fun _ => true).dropKey
  pure { (l.push mark).advance 3 with keyAllowed := false }

/-- The beginning of a flow collection. -/
def openFlow (l : Lexer) (first : Token) : Option Lexer := do
  let l ← l.markKey
  pure { (l.push first).advance 1 with
    keyAllowed := true, keyStart := none, outer := l.keyStart :: l.outer }

/-- The end of a flow collection. -/
def closeFlow (l : Lexer) (last : Token) : Option Lexer := do
  let l := { (← l.dropKey).push last with keyAllowed := false }
  let l := l.advance 1
  pure (match l.outer with
    | [] => l
    | keyStart :: outer => { l with keyStart, outer })

/-- The comma between the items of a flow collection. -/
def comma (l : Lexer) : Option Lexer := do
  let l ← l.dropKey
  pure { (l.push .comma).advance 1 with keyAllowed := true }

/-- The indicator of an item of a block sequence. -/
def entry (l : Lexer) : Option Lexer := do
  if !l.inFlow && !l.keyAllowed then none
  else
    let l ← (l.openBlock .blockSequence l.cursor.column l.tokens.size).dropKey
    pure { (l.push .entry).advance 1 with keyAllowed := true }

/-- The indicator of a key. -/
def key (l : Lexer) : Option Lexer := do
  if !l.inFlow && !l.keyAllowed then none
  else
    let l ← (l.openBlock .blockMapping l.cursor.column l.tokens.size).dropKey
    pure { (l.push .key).advance 1 with keyAllowed := !l.inFlow }

/-- The indicator of a value. If a key may have begun, this is where it turns out to be one. -/
def value (l : Lexer) : Option Lexer :=
  match l.keyStart with
  | some k =>
    let l := { l with tokens := l.tokens.insertIdxIfInBounds k.number .key }
    let l := l.openBlock .blockMapping k.column k.number
    some { (l.push .value).advance 1 with keyStart := none, keyAllowed := false }
  | none =>
    if !l.inFlow && !l.keyAllowed then none
    else
      let l := l.openBlock .blockMapping l.cursor.column l.tokens.size
      some { (l.push .value).advance 1 with keyAllowed := !l.inFlow }

/-- Whether a text goes on with what may follow the name of an anchor. -/
def endsName : List Char → Bool
  | [] => true
  | c :: rest => isGap (c :: rest) || "?:,]\x7d%@\x60".contains c

/-- The name of an anchor, behind its indicator; `token` makes a token of it. -/
def name (l : Lexer) (token : String → Token) : Option Lexer := do
  let l ← l.markKey
  let (name, cursor) := (l.cursor.advance 1).span isWordChar
  if name.isEmpty ∨ !endsName cursor.rest then none
  else pure { l.push (token (String.ofList name)) with cursor, keyAllowed := false }

/-- A tag. -/
def tag (l : Lexer) : Option Lexer := do
  let l ← l.markKey
  let (tag, cursor) ← readTag l.inFlow l.cursor
  pure { l.push (.tag tag) with cursor, keyAllowed := false }

/-- A scalar that has been read. -/
def scalar (l : Lexer) (style : ScalarStyle) (s : ScalarText) : Lexer :=
  { l.push (.scalar style (String.ofList s.text)) with
    cursor := s.next, keyAllowed := s.startsLine }

/-- A plain scalar. -/
def plain (l : Lexer) : Option Lexer := do
  let l ← l.markKey
  let indent := match l.blocks with
    | [] => 0
    | column :: _ => column + 1
  pure (l.scalar .plain (← readPlain l.inFlow indent l.cursor))

/-- A quoted scalar. -/
def quoted (l : Lexer) (isDouble : Bool) : Option Lexer := do
  let l ← l.markKey
  let style : ScalarStyle := if isDouble then .doubleQuoted else .singleQuoted
  pure (l.scalar style (← readQuoted isDouble l.cursor))

/-- A block scalar; there is none inside a flow collection. -/
def block (l : Lexer) (isLiteral : Bool) : Option Lexer := do
  if l.inFlow then none
  else
    let l ← l.dropKey
    let style : ScalarStyle := if isLiteral then .literal else .folded
    pure (l.scalar style (← readBlock isLiteral l.blocks.head? l.cursor))

/-- The token that begins with the character `c` before `rest`. -/
def token (l : Lexer) (c : Char) (rest : List Char) : Option Lexer :=
  if l.cursor.column = 0 ∧ c = '%' then l.directive
  else if l.cursor.atDocumentMark then
    l.documentMark (if c = '-' then .documentStart else .documentEnd)
  else
    let stands := l.inFlow || isGap rest
    match c with
    | '[' => l.openFlow .flowSequence
    | '\x7b' => l.openFlow .flowMapping
    | ']' => l.closeFlow .flowSequenceEnd
    | '\x7d' => l.closeFlow .flowMappingEnd
    | ',' => l.comma
    | '-' => if isGap rest then l.entry else l.plain
    | '?' => if stands then l.key else l.plain
    | ':' => if stands then l.value else l.plain
    | '*' => l.name .aliasOf
    | '&' => l.name .anchor
    | '!' => l.tag
    | '|' => l.block true
    | '>' => l.block false
    | '\'' => l.quoted false
    | '"' => l.quoted true
    | _ => if c = '%' ∨ c = '@' ∨ c = '\x60' ∨ isSpace c then none else l.plain

/-- The tokens up to the end of the text. -/
def tokensFrom (l : Lexer) : Nat → Option (Array Token)
  | 0 => none
  | fuel + 1 => do
    let l ← (l.skipGaps (l.cursor.left + 1)).dropOverlong
    let l := l.closeBlocks (l.cursor.column < ·)
    match l.cursor.rest with
    | [] =>
      let l ← (l.closeBlocks fun _ => true).dropKey
      pure l.tokens
    | c :: rest => tokensFrom (← l.token c rest) fuel

end Lexer

/-- The tokens of a text; `none` if it cannot be read as tokens. -/
def Token.ofText? (text : String) : Option (Array Token) :=
  let chars := text.toList
  if chars.all isAllowed then
    Lexer.tokensFrom { cursor := { rest := chars } } (chars.length + 1)
  else none

end OpenApi.Yaml

import OpenApi.Text.Natural
import OpenApi.Yaml.Cursor

/-!
Tags, which say of what type a node is. A tag is written in full, or as a handle that stands for the
beginning of tags and a suffix. Since it may hold escapes it is a sequence of octets; every escaped
character is escaped whole.
-/

namespace OpenApi.Yaml

/-- A tag, or a part of one. -/
abbrev Octets := List UInt8

/-- The octets of ASCII characters. -/
def octetsOf (text : List Char) : Octets := text.map Char.toUInt8

/-- A tag as it is written; one that is written in full has no handle. -/
structure TagText where
  handle : List Char
  suffix : Octets
  deriving DecidableEq, Repr, Inhabited

/-! ## Characters -/

/-- Characters of tags. Brackets and commas belong to a tag only where it is written in full. -/
def isTagChar (inFull : Bool) (c : Char) : Bool :=
  isWordChar c || ";/?:@&=+$.!~*'()".contains c || (inFull && (c == ',' || c == '[' || c == ']'))

/-- The octet that is escaped at the beginning of a text, and what follows it. -/
def escapedOctet? : List Char → Option (Nat × List Char)
  | '%' :: high :: low :: rest => do
    let high ← Text.hexValue? high
    let low ← Text.hexValue? low
    pure (16 * high + low, rest)
  | _ => none

/-- How many octets follow the first one in the UTF-8 form of a character. -/
def followers? (first : Nat) : Option Nat :=
  if first < 0x80 then some 0
  else if 0xc0 ≤ first ∧ first < 0xe0 then some 1
  else if 0xe0 ≤ first ∧ first < 0xf0 then some 2
  else if 0xf0 ≤ first ∧ first < 0xf8 then some 3
  else none

/-- So many escaped octets that are not the first one of a character, and what follows them. -/
def followingOctets : Nat → List Char → Option (Octets × List Char)
  | 0, text => some ([], text)
  | count + 1, text =>
    match escapedOctet? text with
    | none => none
    | some (octet, rest) =>
      if octet < 0x80 ∨ 0xc0 ≤ octet then none
      else (followingOctets count rest).map fun (octets, rest) => (.ofNat octet :: octets, rest)

/-- The escaped character at the beginning of a text, and what follows it. -/
def escapedChar? (text : List Char) : Option (Octets × List Char) := do
  let (first, rest) ← escapedOctet? text
  let (octets, rest) ← followingOctets (← followers? first) rest
  pure (.ofNat first :: octets, rest)

/-- The octets of the characters of a tag at the beginning of a text, and what follows them. -/
def tagChars (inFull : Bool) (text : List Char) : Nat → Option (Octets × List Char)
  | 0 => none
  | fuel + 1 =>
    match text with
    | [] => some ([], [])
    | c :: rest =>
      if c == '%' then
        match escapedChar? text with
        | none => none
        | some (octets, rest) =>
          (tagChars inFull rest fuel).map fun (others, rest) => (octets ++ others, rest)
      else if isTagChar inFull c then
        (tagChars inFull rest fuel).map fun (octets, rest) => (c.toUInt8 :: octets, rest)
      else some ([], text)

/-- The octets of the characters of a tag ahead. -/
def tagCharsAhead (inFull : Bool) (text : List Char) : Option (Octets × List Char) :=
  tagChars inFull text (text.length + 1)

/-- As much of a tag as counts: an octet zero ends it. -/
def counted (octets : Octets) : Octets := octets.takeWhile (· != 0)

/-! ## Tags -/

/-- A handle, which is an exclamation mark or a word between two of them, and what follows it. A
word after a mark need not be a handle: it may also be the beginning of a suffix. -/
def handleOrWord? : List Char → Option (List Char × List Char)
  | '!' :: rest =>
    let word := rest.takeWhile isWordChar
    match rest.dropWhile isWordChar with
    | '!' :: rest => some ('!' :: word ++ ['!'], rest)
    | rest => some ('!' :: word, rest)
  | _ => none

/-- Whether an exclamation mark ends what another one begins. -/
def isNamedHandle (handle : List Char) : Bool :=
  2 ≤ handle.length && handle.getLast? == some '!'

/-- The tag at the beginning of a text, and what follows it. -/
def tagText? (text : List Char) : Option (TagText × List Char) :=
  match text with
  | '!' :: '<' :: rest => do
    let (octets, rest) ← tagCharsAhead true rest
    match rest with
    | '>' :: rest => if octets.isEmpty then none else pure (⟨[], counted octets⟩, rest)
    | _ => none
  | _ => do
    let (head, rest) ← handleOrWord? text
    let (octets, rest) ← tagCharsAhead false rest
    if isNamedHandle head then
      if octets.isEmpty then none else pure (⟨head, counted octets⟩, rest)
    else
      let suffix := counted (octetsOf head.tail ++ octets)
      pure (if suffix.isEmpty then ⟨[], octetsOf head⟩ else ⟨['!'], suffix⟩, rest)

/-- The tag ahead. A gap follows it, or a comma inside a flow collection. -/
def readTag (inFlow : Bool) (c : Cursor) : Option (TagText × Cursor) := do
  let (tag, rest) ← tagText? c.rest
  if isGap rest || (inFlow && rest.head? == some ',') then pure (tag, c.upTo rest) else none

/-- What handles stand for. -/
abbrev Handles := List (List Char × Octets)

/-- What the handles that need not be declared stand for. -/
def Handles.standard : Handles :=
  [(['!'], octetsOf ['!']), (['!', '!'], octetsOf "tag:yaml.org,2002:".toList)]

/-- The tag that is written; `none` if its handle is not known. -/
def TagText.resolve? (handles : Handles) (tag : TagText) : Option Octets :=
  if tag.handle.isEmpty then some tag.suffix
  else (handles.lookup tag.handle).map (· ++ tag.suffix)

end OpenApi.Yaml

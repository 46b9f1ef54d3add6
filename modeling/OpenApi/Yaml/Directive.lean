import OpenApi.Yaml.Tag

/-!
The directives before a document: which version of the language it is written in, and what the
handles of its tags stand for.
-/

namespace OpenApi.Yaml

/-- A directive. -/
inductive Directive where
  | version (major minor : Nat)
  | handle (handle : List Char) (octets : Octets)
  deriving DecidableEq, Repr, Inhabited

/-- A number of at most nine digits at the beginning of a text, and what follows it. -/
def versionNumber? (text : List Char) : Option (Nat × List Char) :=
  let digits := text.takeWhile Text.isDigit
  if digits.isEmpty ∨ 9 < digits.length then none
  else some (Text.ofDigits digits, text.dropWhile Text.isDigit)

/-- A version at the beginning of a text, and what follows it. -/
def version? (text : List Char) : Option (Directive × List Char) := do
  let (major, rest) ← versionNumber? text
  match rest with
  | '.' :: rest =>
    let (minor, rest) ← versionNumber? rest
    pure (.version major minor, rest)
  | _ => none

/-- A handle and what it stands for at the beginning of a text, and what follows them. -/
def handleMeaning? (text : List Char) : Option (Directive × List Char) := do
  let (handle, rest) ← handleOrWord? text
  if handle ≠ ['!'] ∧ !isNamedHandle handle then none
  else if !isSpaced rest then none
  else
    let (octets, rest) ← tagCharsAhead true (rest.dropWhile isSpace)
    if octets.isEmpty ∨ !isGap rest then none else pure (.handle handle (counted octets), rest)

/-- The directive whose percent sign is ahead, and the place after its line. -/
def readDirective (c : Cursor) : Option (Directive × Cursor) := do
  let (name, c) := (c.advance 1).span isWordChar
  if !isGap c.rest then none
  else
    let c := (c.span isSpace).2
    let (directive, rest) ←
      if name = "YAML".toList then version? c.rest
      else if name = "TAG".toList then handleMeaning? c.rest
      else none
    pure (directive, ← (c.upTo rest).lineEnd?)

/-- The handles that directives declare, and those that need no declaration. The version must be one
of the two that are known, and neither it nor a handle must be declared twice. -/
def Handles.ofDirectives (directives : List Directive) : Option Handles :=
  let versions := directives.filterMap fun
    | .version major minor => some (major, minor)
    | .handle .. => none
  let declared : Handles := directives.filterMap fun
    | .version .. => none
    | .handle handle octets => some (handle, octets)
  if versions.length ≤ 1 ∧ (∀ v ∈ versions, v = (1, 1) ∨ v = (1, 2)) ∧ (declared.map (·.1)).Nodup
  then some (declared ++ Handles.standard)
  else none

end OpenApi.Yaml

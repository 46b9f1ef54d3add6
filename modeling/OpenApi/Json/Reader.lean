import OpenApi.Json.Value
import OpenApi.Text.Natural

/-!
Reading JSON text. Values may be nested `depthLimit` deep. A fraction is read with the digits that
fit into sixty-four bits and scaled by one rounded power of ten, so that a long one may come out a
neighbour of the nearest number.
-/

namespace OpenApi.Json

open Text (isDigit digitValue hexValue? maxWord64)

/-- How deep arrays and objects may be nested. -/
def depthLimit : Nat := 127

/-- White space between the tokens of a text. -/
def isSpace (c : Char) : Bool := c == ' ' || c == '\n' || c == '\t' || c == '\r'

/-- The number that four hexadecimal digits write. -/
def fourHex? (a b c d : Char) : Option Nat := do
  let a ← hexValue? a
  let b ← hexValue? b
  let c ← hexValue? c
  let d ← hexValue? d
  pure (4096 * a + 256 * b + 16 * c + d)

/-- The character of an escape of one letter. -/
def simpleEscape? : Char → Option Char
  | '"' => some '"'
  | '\\' => some '\\'
  | '/' => some '/'
  | 'b' => some '\x08'
  | 'f' => some '\x0c'
  | 'n' => some '\n'
  | 'r' => some '\r'
  | 't' => some '\t'
  | _ => none

/-- The rest of a string after its opening quote, and the text after its closing one. `done` holds
the characters read so far, last first; `high` is the first half of a surrogate pair whose second
half has to come next. -/
def readString (done : List Char) (high : Option Nat) :
    List Char → Option (String × List Char)
  | '"' :: rest => if high.isNone then some (String.ofList done.reverse, rest) else none
  | '\\' :: 'u' :: a :: b :: c :: d :: rest =>
    match fourHex? a b c d, high with
    | none, _ => none
    | some unit, some first =>
      if 0xdc00 ≤ unit ∧ unit ≤ 0xdfff then
        readString
          (Char.ofNat (0x10000 + (first - 0xd800) * 0x400 + (unit - 0xdc00)) :: done) none rest
      else
        none
    | some unit, none =>
      if 0xd800 ≤ unit ∧ unit ≤ 0xdbff then readString done (some unit) rest
      else if 0xdc00 ≤ unit ∧ unit ≤ 0xdfff then none
      else readString (Char.ofNat unit :: done) none rest
  | '\\' :: c :: rest =>
    match simpleEscape? c, high with
    | some e, none => readString (e :: done) none rest
    | _, _ => none
  | c :: rest =>
    if c.toNat < 0x20 ∨ c = '\\' ∨ high.isSome then none else readString (c :: done) none rest
  | [] => none

/-- Takes digits into `significand` as long as it fits into sixty-four bits; gives back what it
came to and the number of digits taken. -/
def absorb (significand taken : Nat) : List Char → Nat × Nat
  | [] => (significand, taken)
  | c :: rest =>
    let next := 10 * significand + digitValue c
    if next ≤ maxWord64 then absorb next (taken + 1) rest else (significand, taken)

/-- `x / 10 ^ e`, by powers of ten that binary64 has. -/
def scaleDown (x : Binary64) (e : Nat) : Option Binary64 :=
  if h : 308 < e then
    if x.significand = 0 then some x
    else do
      let power ← Binary64.ofNat? false (Nat.pow 10 308)
      let x ← x.div? power
      scaleDown x (e - 308)
  else do
    let power ← Binary64.ofNat? false (Nat.pow 10 e)
    x.div? power
termination_by e
decreasing_by omega

/-- `significand * 10 ^ exponent`, with one rounding for the significand and one for the scale. -/
def scaled? (negative : Bool) (significand : Nat) (exponent : Int) : Option Binary64 := do
  let x ← Binary64.ofNat? negative significand
  if significand = 0 then pure x
  else if exponent < 0 then scaleDown x (-exponent).toNat
  else if 308 < exponent then none
  else
    let power ← Binary64.ofNat? false (Nat.pow 10 exponent.toNat)
    x.mul? power

/-- The exponent part of a number: its value and what follows it; zero if there is none. -/
def readExponent : List Char → Option (Int × List Char)
  | [] => some (0, [])
  | c :: rest =>
    if c = 'e' ∨ c = 'E' then
      let (negative, rest) := match rest with
        | '-' :: rest => (true, rest)
        | '+' :: rest => (false, rest)
        | rest => (false, rest)
      let digits := rest.takeWhile isDigit
      if digits.isEmpty then none
      else
        let n : Int := Text.ofDigits digits
        some (if negative then -n else n, rest.dropWhile isDigit)
    else
      some (0, c :: rest)

/-- The integer of a number without fraction and exponent whose digits fit into sixty-four bits.
A negative zero and a negative number beyond sixty-four bits are binary64 numbers. -/
def integer? (negative : Bool) (n : Nat) : Option JsonNumber :=
  if !negative then some (.integer n)
  else if n ≠ 0 ∧ n ≤ Nat.pow 2 63 then some (.integer (-n))
  else (Binary64.ofNat? true n).map .binary

/-- The digits of a number after its sign. -/
def readMagnitude (negative : Bool) (text : List Char) : Option (JsonNumber × List Char) := do
  let whole := text.takeWhile isDigit
  let rest := text.dropWhile isDigit
  let (significand, taken) := absorb 0 0 whole
  let skipped : Int := whole.length - taken
  match whole with
  | [] => none
  | '0' :: _ :: _ => none
  | _ =>
    match rest with
    | '.' :: rest =>
      let fraction := rest.takeWhile isDigit
      if fraction.isEmpty then none
      else
        let (significand, taken) := absorb significand 0 fraction
        let (e, rest) ← readExponent (rest.dropWhile isDigit)
        let x ← scaled? negative significand (skipped - taken + e)
        pure (.binary x, rest)
    | 'e' :: _ | 'E' :: _ =>
      let (e, rest) ← readExponent rest
      let x ← scaled? negative significand (skipped + e)
      pure (.binary x, rest)
    | _ =>
      if skipped = 0 then
        let n ← integer? negative significand
        pure (n, rest)
      else
        let x ← scaled? negative significand skipped
        pure (.binary x, rest)

/-- A number. -/
def readNumber : List Char → Option (JsonNumber × List Char)
  | '-' :: rest => readMagnitude true rest
  | text => readMagnitude false text

mutual

/-- A value, at most `depth` deep. Every step takes a character, so `fuel` above the length of the
text suffices. -/
def readValue (fuel depth : Nat) (text : List Char) : Option (Json × List Char) :=
  match fuel with
  | 0 => none
  | fuel + 1 =>
    match text.dropWhile isSpace with
    | 'n' :: 'u' :: 'l' :: 'l' :: rest => some (.null, rest)
    | 't' :: 'r' :: 'u' :: 'e' :: rest => some (.bool true, rest)
    | 'f' :: 'a' :: 'l' :: 's' :: 'e' :: rest => some (.bool false, rest)
    | '"' :: rest => (readString [] none rest).map fun (s, rest) => (.string s, rest)
    | '[' :: rest =>
      match depth, rest.dropWhile isSpace with
      | 0, _ => none
      | _ + 1, ']' :: rest => some (.array [], rest)
      | depth + 1, rest => readItems fuel depth [] rest
    | '\x7b' :: rest =>
      match depth, rest.dropWhile isSpace with
      | 0, _ => none
      | _ + 1, '\x7d' :: rest => some (.object [], rest)
      | depth + 1, rest => readMembers fuel depth [] rest
    | rest => (readNumber rest).map fun (n, rest) => (.number n, rest)

/-- The items of an array from one of them on; `done` holds those before it, last first. -/
def readItems (fuel depth : Nat) (done : List Json) (text : List Char) :
    Option (Json × List Char) :=
  match fuel with
  | 0 => none
  | fuel + 1 =>
    match readValue fuel depth text with
    | none => none
    | some (item, rest) =>
      match rest.dropWhile isSpace with
      | ',' :: rest => readItems fuel depth (item :: done) rest
      | ']' :: rest => some (.array (item :: done).reverse, rest)
      | _ => none

/-- The members of an object from one of them on; `done` holds those before it. A name that comes
again gives its member the later value. -/
def readMembers (fuel depth : Nat) (done : Members Json) (text : List Char) :
    Option (Json × List Char) :=
  match fuel with
  | 0 => none
  | fuel + 1 =>
    match text.dropWhile isSpace with
    | '"' :: rest =>
      match readString [] none rest with
      | none => none
      | some (name, rest) =>
        match rest.dropWhile isSpace with
        | ':' :: rest =>
          match readValue fuel depth rest with
          | none => none
          | some (value, rest) =>
            match rest.dropWhile isSpace with
            | ',' :: rest => readMembers fuel depth (done.put name value) rest
            | '\x7d' :: rest => some (.object (done.put name value), rest)
            | _ => none
        | _ => none
    | _ => none

end

/-- The value that a text writes. -/
def read? (text : String) : Option Json :=
  let chars := text.toList
  match readValue (2 * chars.length + 2) depthLimit chars with
  | some (value, rest) => if rest.all isSpace then some value else none
  | none => none

end OpenApi.Json

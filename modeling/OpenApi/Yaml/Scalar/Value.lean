import OpenApi.Json.Reader
import OpenApi.Yaml.Node

/-!
The JSON values that scalars stand for. A plain scalar without a tag is null, a boolean, an integer
or a number if it is written like one, and a text otherwise; the tags of these types ask for one of
them, whatever the style; every other scalar is a text.
-/

namespace OpenApi.Yaml

/-- The texts of null. -/
def isNullText (text : String) : Bool := text ∈ ["null", "Null", "NULL", "~"]

/-- The boolean that a text writes. -/
def boolText? (text : String) : Option Bool :=
  if text ∈ ["true", "True", "TRUE"] then some true
  else if text ∈ ["false", "False", "FALSE"] then some false
  else none

/-! ## Numbers -/

/-- The sign of a number, and what follows it. -/
def signed : List Char → Bool × List Char
  | '-' :: rest => (true, rest)
  | '+' :: rest => (false, rest)
  | text => (false, text)

/-- Whether a text is nothing but digits with a zero before others. Such a text is no number. -/
def isPadded (text : List Char) : Bool :=
  1 < text.length && text.head? == some '0' && text.all Text.isDigit

/-- The number that digits of a base write. -/
def inBase? (base : Nat) : List Char → Option Nat
  | [] => none
  | digits =>
    digits.foldlM (fun n c => do
      let d ← Text.hexValue? c
      if d < base then some (base * n + d) else none) 0

/-- The number that a text without a sign writes, in base ten or in one that is said before the
digits. -/
def magnitude? : List Char → Option Nat
  | '0' :: 'x' :: digits => inBase? 16 digits
  | '0' :: 'o' :: digits => inBase? 8 digits
  | '0' :: 'b' :: digits => inBase? 2 digits
  | digits => if isPadded digits then none else inBase? 10 digits

/-- The integer that a text writes. -/
def integer? (text : List Char) : Option Int :=
  let (negative, digits) := signed text
  (magnitude? digits).map fun n => if negative then -n else n

/-- The integers of so many bits, with or without a sign. -/
def isWord (bits : Nat) (i : Int) : Bool :=
  -(Nat.pow 2 (bits - 1) : Int) ≤ i && i < (Nat.pow 2 bits : Int)

/-- The finite binary64 number nearest to the decimal number that a text writes. A digit before the
point or behind it is enough. -/
def decimal? (text : List Char) : Option Binary64 := do
  let (negative, digits) := signed text
  let whole := digits.takeWhile Text.isDigit
  let (fraction, rest) := match digits.dropWhile Text.isDigit with
    | '.' :: rest => (rest.takeWhile Text.isDigit, rest.dropWhile Text.isDigit)
    | rest => ([], rest)
  if whole.isEmpty && fraction.isEmpty then none
  else
    match ← Json.readExponent rest with
    | (exponent, []) =>
      Binary64.ofDecimal? negative (Text.ofDigits (whole ++ fraction))
        (exponent - fraction.length)
    | _ => none

/-- The texts of infinity and of what is no number, neither of which JSON has. -/
def isUnbounded (text : String) : Bool :=
  text ∈ [".inf", ".Inf", ".INF", "+.inf", "+.Inf", "+.INF", "-.inf", "-.Inf", "-.INF", ".nan",
    ".NaN", ".NAN"]

/-- The number that a text writes; null stands for those that JSON does not have. -/
def binary? (text : String) : Option Json :=
  if isUnbounded text then some .null
  else (decimal? text.toList).map fun x => .number (.binary x)

/-! ## Scalars -/

/-- The value of a plain scalar without a tag. There is none for an integer of more than 64 bits,
unless it has more than 128 bits and goes as a number. -/
def plainValue? (text : String) : Option Json :=
  if text.isEmpty || isNullText text then some .null
  else
    match boolText? text, integer? text.toList with
    | some b, _ => some (.bool b)
    | none, some i =>
      if isWord 64 i then some (.number (.integer i))
      else if isWord 128 i then none
      else some ((binary? text).getD (.string text))
    | none, none =>
      if isPadded (signed text.toList).2 then some (.string text)
      else some ((binary? text).getD (.string text))

/-- The tag of a type that every document knows. -/
def coreTag (type : String) : Octets := octetsOf ("tag:yaml.org,2002:" ++ type).toList

/-- Whether a tag is one of those that documents are free to use. Only the readable ones count. -/
def isLocalTag (tag : Octets) : Bool :=
  tag.head? == some '!'.toUInt8 && (String.fromUTF8? ⟨tag.toArray⟩).isSome

/-- The value of a scalar; there is none for a local tag, nor if the text is not one of the type
that the tag asks for. -/
def scalarValue? (tag : Option Octets) (style : ScalarStyle) (text : String) : Option Json :=
  let untagged : Option Json := if style = .plain then plainValue? text else some (.string text)
  match tag with
  | none => untagged
  | some tag =>
    if isLocalTag tag then none
    else if tag.head? = some '!'.toUInt8 then untagged
    else if tag = coreTag "bool" then (boolText? text).map .bool
    else if tag = coreTag "int" then
      match integer? text.toList with
      | some i => if isWord 64 i then some (.number (.integer i)) else none
      | none => none
    else if tag = coreTag "float" then binary? text
    else if tag = coreTag "null" then if isNullText text then some .null else none
    else some (.string text)

end OpenApi.Yaml

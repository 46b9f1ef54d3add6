import OpenApi.Number.Shortest

/-!
How a decimal is laid out as text: where the point goes, and when an exponent is written instead.
-/

namespace OpenApi

/-- The choices that differ between number formats. -/
structure NumberStyle where
  /-- the exponents of the leading digit that are written without an exponent part -/
  positional : Int → Bool
  /-- a whole number ends in `.0` -/
  pointZero : Bool
  tie : Tie

namespace NumberStyle

/-- Digits and exponent without an exponent part. -/
def positionalText (style : NumberStyle) (digits : List Char) (exponent : Int) : List Char :=
  let whole := (digits.length : Int) + exponent
  if 0 ≤ exponent then
    digits ++ List.replicate exponent.toNat '0' ++ (if style.pointZero then ['.', '0'] else [])
  else if 0 < whole then
    digits.take whole.toNat ++ ['.'] ++ digits.drop whole.toNat
  else
    ['0', '.'] ++ List.replicate (-whole).toNat '0' ++ digits

/-- Digits with a point after the first, and the exponent of the first with its sign. -/
def scientificText (digits : List Char) (leading : Int) : List Char :=
  let mantissa := match digits with
    | [] => []
    | [d] => [d]
    | d :: rest => d :: '.' :: rest
  mantissa ++ ['e', if leading < 0 then '-' else '+'] ++ Nat.toDigits 10 leading.natAbs

/-- The text of a number. -/
def text (style : NumberStyle) (x : Binary64) : String :=
  let d := Decimal.shortest style.tie x
  let digits := Nat.toDigits 10 d.digits
  let sign := if x.negative then ['-'] else []
  String.ofList (sign ++
    if style.positional d.leading then style.positionalText digits d.exponent
    else scientificText digits d.leading)

end NumberStyle

end OpenApi

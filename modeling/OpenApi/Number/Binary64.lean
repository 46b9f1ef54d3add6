/-!
Finite binary64 numbers as exact dyadic fractions, and the rounding of fractions to them. Nothing
here is floating-point arithmetic: a product, a quotient or a decimal is a fraction of natural
numbers that is rounded once, so every result can be computed in a proof.
-/

namespace OpenApi

/-- The number `significand * 2 ^ exponent`, negated if `negative`. In the form that rounding
gives, the significand is below `2 ^ 53`, and it is at least `2 ^ 52` unless the exponent is the
least one, `-1074`. -/
structure Binary64 where
  negative : Bool
  significand : Nat
  exponent : Int
  deriving DecidableEq, Repr, Inhabited

namespace Binary64

/-- Zero, with a sign. -/
def zero (negative : Bool) : Binary64 := ⟨negative, 0, -1074⟩

/-- `n / d` to the nearest natural number, a half to the even one. -/
def roundQuotient (n d : Nat) : Nat :=
  let q := n / d
  match compare (2 * (n % d)) d with
  | .lt => q
  | .gt => q + 1
  | .eq => q + q % 2

/-- `n / d` in units of `2 ^ e`, rounded. -/
def inUnits (n d : Nat) (e : Int) : Nat :=
  roundQuotient (n * Nat.pow 2 (-e).toNat) (d * Nat.pow 2 e.toNat)

/-- The exponent at which `n / d` has a significand of 53 bits, or the least exponent. -/
def exponentOf (n d : Nat) : Int :=
  let e : Int := (n.log2 : Int) - d.log2 - 53
  let quotient := n * Nat.pow 2 (-e).toNat / (d * Nat.pow 2 e.toNat)
  let e := if quotient < Nat.pow 2 53 then e else e + 1
  max e (-1074)

/-- The number nearest to `n / d` with the given sign, ties to even; `none` if it is beyond the
largest finite number. -/
def ofRatio? (negative : Bool) (n d : Nat) : Option Binary64 :=
  if n = 0 then
    some (zero negative)
  else
    let e := exponentOf n d
    let m := inUnits n d e
    let (m, e) := if m = Nat.pow 2 53 then (Nat.pow 2 52, e + 1) else (m, e)
    if 971 < e then none else some ⟨negative, m, e⟩

/-- The number nearest to `n`. -/
def ofNat? (negative : Bool) (n : Nat) : Option Binary64 := ofRatio? negative n 1

/-- The number nearest to an integer, as far as it is one of at most 64 bits. -/
def ofInt (i : Int) : Binary64 :=
  (ofNat? (i < 0) i.natAbs).getD (zero false)

/-- The rounded product. -/
def mul? (x y : Binary64) : Option Binary64 :=
  let e := x.exponent + y.exponent
  ofRatio? (x.negative != y.negative)
    (x.significand * y.significand * Nat.pow 2 e.toNat) (Nat.pow 2 (-e).toNat)

/-- The rounded quotient; the divisor is not zero. -/
def div? (x y : Binary64) : Option Binary64 :=
  let e := x.exponent - y.exponent
  ofRatio? (x.negative != y.negative)
    (x.significand * Nat.pow 2 e.toNat) (y.significand * Nat.pow 2 (-e).toNat)

/-- The number nearest to `digits * 10 ^ exponent`. The scale is judged by the count of digits
first, so that no power is computed that could not matter. -/
def ofDecimal? (negative : Bool) (digits : Nat) (exponent : Int) : Option Binary64 :=
  let scale := (Nat.toDigits 10 digits).length + exponent
  if digits = 0 then some (zero negative)
  else if 310 < scale then none
  else if scale < -330 then some (zero negative)
  else ofRatio? negative (digits * Nat.pow 10 exponent.toNat) (Nat.pow 10 (-exponent).toNat)

/-- Whether the gap to the neighbour below is half the gap to the one above. -/
def narrowBelow (x : Binary64) : Bool :=
  x.significand == Nat.pow 2 52 && decide (-1074 < x.exponent)

example : ofDecimal? false 1 (-1) = some ⟨false, 7205759403792794, -56⟩ := by decide +kernel

example : ofDecimal? false 5 (-324) = some ⟨false, 1, -1074⟩ ∧
    ofDecimal? false 17976931348623159 292 = none := by decide +kernel

end Binary64

end OpenApi

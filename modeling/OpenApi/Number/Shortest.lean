import OpenApi.Number.Binary64

/-!
The fewest decimal digits that read back to a binary64 number: the decimals that round to it form
an interval, and on coarser and coarser decimal grids one looks for a point of that interval
beside the number itself.
-/

namespace OpenApi

/-- The decimal number `digits * 10 ^ exponent`. -/
structure Decimal where
  digits : Nat
  exponent : Int
  deriving DecidableEq, Repr

/-- What is chosen of two decimals of one length that are equally near. -/
inductive Tie where
  | even
  | up
  deriving DecidableEq, Repr

namespace Decimal

/-- Compares `a * 10 ^ i` with `n * 2 ^ j`. -/
def compareScaled (a : Nat) (i : Int) (n : Nat) (j : Int) : Ordering :=
  compare (a * Nat.pow 10 i.toNat * Nat.pow 2 (-j).toNat)
    (n * Nat.pow 2 j.toNat * Nat.pow 10 (-i).toNat)

/-- The decimal, taken without sign, is one of those that round to `x`. -/
def readsBack (d : Decimal) (x : Binary64) : Bool :=
  let low := if x.narrowBelow then 4 * x.significand - 1 else 4 * x.significand - 2
  let high := 4 * x.significand + 2
  let ends := x.significand % 2 == 0
  let atLow := compareScaled d.digits d.exponent low (x.exponent - 2)
  let atHigh := compareScaled d.digits d.exponent high (x.exponent - 2)
  (atLow == .gt || ends && atLow == .eq) && (atHigh == .lt || ends && atHigh == .eq)

/-- The least `k ≥ start` within `fuel` steps for which the magnitude of `x` is below `10 ^ k`. -/
def scaleFrom (x : Binary64) (start : Int) : Nat → Int
  | 0 => start
  | fuel + 1 =>
    if compareScaled 1 start x.significand x.exponent == .gt then start
    else scaleFrom x (start + 1) fuel

/-- The least `k` for which the magnitude of `x`, which is not zero, is below `10 ^ k`. The search
starts a little below the estimate `log₁₀ 2 ≈ 0.30103` gives. -/
def scale (x : Binary64) : Int :=
  scaleFrom x (((x.significand.log2 : Int) + x.exponent) * 30103 / 100000 - 1) 5

/-- The point nearest to `x` that reads back among its two neighbours on the grid of multiples of
`10 ^ e`. -/
def onGrid? (tie : Tie) (x : Binary64) (e : Int) : Option Decimal :=
  let below := x.significand * Nat.pow 2 x.exponent.toNat * Nat.pow 10 (-e).toNat /
    (Nat.pow 2 (-x.exponent).toNat * Nat.pow 10 e.toNat)
  let down : Decimal := ⟨below, e⟩
  let up : Decimal := ⟨below + 1, e⟩
  match down.readsBack x, up.readsBack x with
  | false, false => none
  | true, false => some down
  | false, true => some up
  | true, true =>
    match compareScaled (2 * below + 1) e (2 * x.significand) x.exponent with
    | .gt => some down
    | .lt => some up
    | .eq => if tie = .up ∨ below % 2 = 1 then some up else some down

/-- Moves trailing zeros of the digits into the exponent. -/
def stripZeros (d : Decimal) : Nat → Decimal
  | 0 => d
  | fuel + 1 =>
    if d.digits % 10 = 0 ∧ d.digits ≠ 0 then stripZeros ⟨d.digits / 10, d.exponent + 1⟩ fuel else d

/-- The exact value of `x` without its sign. -/
def exactly (x : Binary64) : Decimal :=
  if 0 ≤ x.exponent then ⟨x.significand * Nat.pow 2 x.exponent.toNat, 0⟩
  else ⟨x.significand * Nat.pow 5 (-x.exponent).toNat, x.exponent⟩

/-- The decimal of fewest digits that reads back to `x`, and of those the nearest; no digits at all
for zero. -/
def shortest (tie : Tie) (x : Binary64) : Decimal :=
  if x.significand = 0 then
    ⟨0, 0⟩
  else
    let k := scale x
    let found := (List.range 17).findSome? fun (n : Nat) => onGrid? tie x (k - 1 - n)
    (found.getD (exactly x)).stripZeros 20

/-- The exponent of the leading digit. -/
def leading (d : Decimal) : Int :=
  (Nat.toDigits 10 d.digits).length - 1 + d.exponent

end Decimal

end OpenApi

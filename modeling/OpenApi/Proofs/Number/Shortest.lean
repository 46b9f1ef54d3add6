import OpenApi.Number.Shortest
import OpenApi.Proofs.Number.Rounding

/-!
The decimal of fewest digits lies in the interval of the number that it is chosen for
(`shortest_roundsTo`): the points of the grids are tested for that, and the exact value, which stands in
for them where the search ends without one, is in the interval anyway.
-/

namespace OpenApi.Decimal

variable {d : Decimal} {x : Binary64} {a n : ℕ} {i j : ℤ}

/-- The number that it is. -/
def value (d : Decimal) : ℚ := d.digits * 10 ^ d.exponent

/-! ## Comparing -/

/-- The two numbers that are compared, as they are computed, have a common denominator. -/
theorem compareScaled_scaled : ∃ scale : ℚ, 0 < scale ∧
    (a * Nat.pow 10 i.toNat * Nat.pow 2 (-j).toNat : ℕ) = a * 10 ^ i * scale ∧
    (n * Nat.pow 2 j.toNat * Nat.pow 10 (-i).toNat : ℕ) = n * 2 ^ j * scale := by
  refine ⟨10 ^ (-i).toNat * 2 ^ (-j).toNat, by positivity, ?_, ?_⟩
  · rw [zpow_eq_div (b := 10) (by norm_num)]
    push_cast [Nat.pow_eq]
    field_simp
  · rw [zpow_eq_div two_ne_zero]
    push_cast [Nat.pow_eq]
    field_simp

theorem compareScaled_eq_lt : compareScaled a i n j = .lt ↔ (a * 10 ^ i : ℚ) < n * 2 ^ j := by
  obtain ⟨scale, hscale, hleft, hright⟩ := compareScaled_scaled (a := a) (n := n) (i := i) (j := j)
  rw [compareScaled, Nat.compare_eq_lt, ← Nat.cast_lt (α := ℚ), hleft, hright,
    mul_lt_mul_iff_left₀ hscale]

theorem compareScaled_eq_gt : compareScaled a i n j = .gt ↔ (n * 2 ^ j : ℚ) < a * 10 ^ i := by
  obtain ⟨scale, hscale, hleft, hright⟩ := compareScaled_scaled (a := a) (n := n) (i := i) (j := j)
  rw [compareScaled, Nat.compare_eq_gt, ← Nat.cast_lt (α := ℚ), hleft, hright,
    mul_lt_mul_iff_left₀ hscale]

theorem compareScaled_eq_eq : compareScaled a i n j = .eq ↔ (a * 10 ^ i : ℚ) = n * 2 ^ j := by
  obtain ⟨scale, hscale, hleft, hright⟩ := compareScaled_scaled (a := a) (n := n) (i := i) (j := j)
  rw [compareScaled, Nat.compare_eq_eq, ← Nat.cast_inj (R := ℚ), hleft, hright,
    mul_left_inj' hscale.ne']

/-! ## Reading back -/

/-- The ends of the interval, in quarters of the unit. -/
theorem quarters (m : ℕ) (e : ℤ) : (m * 2 ^ (e - 2) : ℚ) = m / 4 * 2 ^ e := by
  rw [zpow_sub₀ two_ne_zero]
  ring

/-- The decimals that read back to a number are those that round to it. -/
theorem readsBack_iff (hpos : 0 < x.significand) : d.readsBack x = true ↔ x.RoundsTo d.value := by
  have hlow : ((if x.narrowBelow then 4 * x.significand - 1 else 4 * x.significand - 2 : ℕ) *
      2 ^ (x.exponent - 2) : ℚ) = x.lower := by
    rw [quarters, Binary64.lower]
    split
    · rw [Nat.cast_sub (by omega)]
      push_cast
      ring
    · rw [Nat.cast_sub (by omega)]
      push_cast
      ring
  have hhigh : ((4 * x.significand + 2 : ℕ) * 2 ^ (x.exponent - 2) : ℚ) = x.upper := by
    rw [quarters, Binary64.upper]
    push_cast
    ring
  unfold readsBack
  dsimp only
  simp only [Bool.and_eq_true, Bool.or_eq_true, beq_iff_eq, compareScaled_eq_lt, compareScaled_eq_gt,
    compareScaled_eq_eq, hlow, hhigh, ← Nat.even_iff]
  constructor
  · rintro ⟨hlower, hupper⟩
    exact ⟨hlower.imp_right (And.imp_right Eq.symm), hupper⟩
  · rintro ⟨hlower, hupper⟩
    exact ⟨hlower.imp_right (And.imp_right Eq.symm), hupper⟩

theorem onGrid?_readsBack {tie : Tie} {e : ℤ} (h : onGrid? tie x e = some d) :
    d.readsBack x = true := by
  unfold onGrid? at h
  dsimp only at h
  split at h
  case h_1 => cases h
  case h_2 hdown _ => cases h; exact hdown
  case h_3 _ hup => cases h; exact hup
  case h_4 hdown hup =>
    split at h
    · cases h; exact hdown
    · cases h; exact hup
    · split at h
      · cases h; exact hup
      · cases h; exact hdown

/-! ## The choice -/

/-- A number rounds to itself. -/
theorem magnitude_roundsTo (x : Binary64) : x.RoundsTo x.magnitude := by
  have hunit : (0 : ℚ) < 2 ^ x.exponent := by positivity
  constructor
  · left
    unfold Binary64.lower Binary64.magnitude
    split <;> nlinarith
  · left
    unfold Binary64.upper Binary64.magnitude
    nlinarith

theorem exactly_value (x : Binary64) : (exactly x).value = x.magnitude := by
  unfold exactly value Binary64.magnitude
  split
  case isTrue h =>
    obtain ⟨n, hn⟩ := Int.eq_ofNat_of_zero_le h
    simp [hn, Nat.pow_eq]
  case isFalse h =>
    have hten : (10 : ℚ) ^ x.exponent = 2 ^ x.exponent * 5 ^ x.exponent := by
      rw [← mul_zpow]
      norm_num
    have hfive : (5 : ℚ) ^ (-x.exponent).toNat * 5 ^ x.exponent = 1 := by
      rw [← zpow_natCast, ← zpow_add₀ (by norm_num), Int.toNat_of_nonneg (by omega),
        neg_add_cancel, zpow_zero]
    push_cast [Nat.pow_eq]
    calc (x.significand * 5 ^ (-x.exponent).toNat * 10 ^ x.exponent : ℚ)
        = x.significand * 2 ^ x.exponent * (5 ^ (-x.exponent).toNat * 5 ^ x.exponent) := by
          rw [hten]
          ring
      _ = x.significand * 2 ^ x.exponent := by rw [hfive, mul_one]

theorem stripZeros_value (d : Decimal) (fuel : ℕ) : (d.stripZeros fuel).value = d.value := by
  induction fuel generalizing d with
  | zero => rfl
  | succ fuel ih =>
    unfold stripZeros
    split
    case isTrue h =>
      have hdigits : (d.digits : ℚ) = (d.digits / 10 : ℕ) * 10 := by
        exact_mod_cast (Nat.div_mul_cancel (Nat.dvd_of_mod_eq_zero h.1)).symm
      rw [ih, value, value, zpow_add_one₀ (by norm_num), hdigits]
      ring
    case isFalse => rfl

/-- The decimal that is chosen rounds to the number. -/
theorem shortest_roundsTo (tie : Tie) (hpos : 0 < x.significand) :
    x.RoundsTo (shortest tie x).value := by
  unfold shortest
  rw [if_neg hpos.ne']
  dsimp only
  rw [stripZeros_value]
  cases hfound : (List.range 17).findSome? fun (n : Nat) => onGrid? tie x (scale x - 1 - n) with
  | none =>
    rw [Option.getD_none, exactly_value]
    exact magnitude_roundsTo x
  | some d =>
    obtain ⟨n, -, hgrid⟩ := List.exists_of_findSome?_eq_some hfound
    exact (readsBack_iff hpos).1 (onGrid?_readsBack hgrid)

end OpenApi.Decimal

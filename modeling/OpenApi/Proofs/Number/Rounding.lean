import Mathlib.Algebra.Order.Field.Power
import Mathlib.Data.Rat.Cast.Order
import Mathlib.Tactic.FieldSimp
import Mathlib.Tactic.Linarith
import Mathlib.Tactic.NormNum
import Mathlib.Tactic.Positivity
import Mathlib.Tactic.Ring
import OpenApi.Number.Binary64

/-!
Rounding in rational arithmetic. Every number of the interval of a binary64 number is rounded to it, as
a fraction (`ofRatio?_roundsTo`) and as a decimal (`ofDecimal?_roundsTo`), whatever its digits and its
exponent are.
-/

namespace OpenApi

/-- A power with a negative exponent is a fraction. -/
theorem zpow_eq_div {b : ℚ} (hb : b ≠ 0) (e : ℤ) : b ^ e = b ^ e.toNat / b ^ (-e).toNat := by
  rw [← zpow_natCast, ← zpow_natCast, ← zpow_sub₀ hb, Int.toNat_sub_toNat_neg]

namespace Binary64

/-- The number without its sign. -/
def magnitude (x : Binary64) : ℚ := x.significand * 2 ^ x.exponent

/-- The number that it is. -/
def value (x : Binary64) : ℚ := if x.negative then -x.magnitude else x.magnitude

/-- The form that rounding gives: the significand has no more than 53 bits, and it has as many unless
the exponent is the least. -/
structure IsRounded (x : Binary64) : Prop where
  significand_lt : x.significand < 2 ^ 53
  normal : 2 ^ 52 ≤ x.significand ∨ x.exponent = -1074
  le_exponent : -1074 ≤ x.exponent
  exponent_le : x.exponent ≤ 971

/-- What lies half way to the neighbour below. -/
def lower (x : Binary64) : ℚ :=
  (x.significand - if x.narrowBelow then 1 / 4 else 1 / 2) * 2 ^ x.exponent

/-- What lies half way to the neighbour above, or would if there was one. -/
def upper (x : Binary64) : ℚ := (x.significand + 1 / 2) * 2 ^ x.exponent

/-- The magnitudes that are nearest to `x`; those half way to a neighbour are if `x` is even. -/
structure RoundsTo (x : Binary64) (q : ℚ) : Prop where
  lower_le : x.lower < q ∨ Even x.significand ∧ x.lower = q
  le_upper : q < x.upper ∨ Even x.significand ∧ q = x.upper

variable {x : Binary64} {q : ℚ} {n d m : ℕ} {e : ℤ}

/-! ## Quotients -/

/-- The number that a quotient is nearest to is the one that it is rounded to; half way between two it
is the even one. -/
theorem roundQuotient_eq (hd : 0 < d)
    (hlow : (m - 1 / 2 : ℚ) < n / d ∨ Even m ∧ (m - 1 / 2 : ℚ) = n / d)
    (hhigh : (n / d : ℚ) < m + 1 / 2 ∨ Even m ∧ (n / d : ℚ) = m + 1 / 2) :
    roundQuotient n d = m := by
  have hd' : (0 : ℚ) < d := by exact_mod_cast hd
  -- twice all that, in units of the divisor
  have hlow : 2 * m * d < 2 * n + d ∨ Even m ∧ 2 * m * d = 2 * n + d := by
    refine hlow.imp (fun h => ?_) (And.imp_right fun h => ?_)
    · rw [lt_div_iff₀ hd'] at h
      exact_mod_cast (by linarith : (2 * m * d : ℚ) < 2 * n + d)
    · rw [eq_div_iff hd'.ne'] at h
      exact_mod_cast (by linarith : (2 * m * d : ℚ) = 2 * n + d)
  have hhigh : 2 * n < (2 * m + 1) * d ∨ Even m ∧ 2 * n = (2 * m + 1) * d := by
    refine hhigh.imp (fun h => ?_) (And.imp_right fun h => ?_)
    · rw [div_lt_iff₀ hd'] at h
      exact_mod_cast (by linarith : (2 * n : ℚ) < (2 * m + 1) * d)
    · rw [div_eq_iff hd'.ne'] at h
      exact_mod_cast (by linarith : (2 * n : ℚ) = (2 * m + 1) * d)
  have hn : d * (n / d) + n % d = n := Nat.div_add_mod n d
  have hr : n % d < d := Nat.mod_lt n hd
  unfold roundQuotient
  generalize n / d = p at *
  generalize n % d = r at *
  subst hn
  dsimp only
  obtain h | rfl | rfl | h : m + 1 ≤ p ∨ m = p ∨ m = p + 1 ∨ p + 2 ≤ m := by omega
  · have := Nat.mul_le_mul_right d h
    grind
  · obtain hlt | ⟨heven, heq⟩ : 2 * r < d ∨ Even m ∧ 2 * r = d := by grind
    · rw [Nat.compare_eq_lt.2 hlt]
    · rw [Nat.compare_eq_eq.2 heq]
      simp [Nat.even_iff.1 heven]
  · obtain hgt | ⟨heven, heq⟩ : d < 2 * r ∨ Even (p + 1) ∧ 2 * r = d := by grind
    · rw [Nat.compare_eq_gt.2 hgt]
    · rw [Nat.compare_eq_eq.2 heq]
      have := Nat.even_iff.1 heven
      dsimp only
      omega
  · have := Nat.mul_le_mul_right d h
    grind

/-! ## Exponents -/

/-- A fraction in units of a power of two, as it is computed. -/
theorem inUnits_ratio : ((n * Nat.pow 2 (-e).toNat : ℕ) / (d * Nat.pow 2 e.toNat : ℕ) : ℚ) =
    n / d / 2 ^ e := by
  rw [zpow_eq_div two_ne_zero, Nat.pow_eq, Nat.pow_eq]
  push_cast
  field_simp

theorem inUnits_eq (hd : 0 < d)
    (hlow : (m - 1 / 2 : ℚ) * 2 ^ e < n / d ∨ Even m ∧ (m - 1 / 2 : ℚ) * 2 ^ e = n / d)
    (hhigh : (n / d : ℚ) < (m + 1 / 2) * 2 ^ e ∨ Even m ∧ (n / d : ℚ) = (m + 1 / 2) * 2 ^ e) :
    inUnits n d e = m := by
  have hunit : (0 : ℚ) < 2 ^ e := by positivity
  refine roundQuotient_eq (Nat.mul_pos hd (Nat.pow_pos two_pos)) ?_ ?_
  · rwa [inUnits_ratio, lt_div_iff₀ hunit, eq_div_iff hunit.ne']
  · rwa [inUnits_ratio, div_lt_iff₀ hunit, div_eq_iff hunit.ne']

theorem quotient_lt_iff (hd : 0 < d) :
    n * Nat.pow 2 (-e).toNat / (d * Nat.pow 2 e.toNat) < m ↔ (n / d : ℚ) < m * 2 ^ e := by
  have hunits : 0 < d * Nat.pow 2 e.toNat := Nat.mul_pos hd (Nat.pow_pos two_pos)
  rw [Nat.div_lt_iff_lt_mul hunits, ← div_lt_iff₀ (by positivity), ← inUnits_ratio,
    div_lt_iff₀ (by exact_mod_cast hunits)]
  exact_mod_cast Iff.rfl

/-- In units of the exponent that is chosen the number has no more than 53 bits, and it has as many
unless the exponent is the least. -/
theorem exponentOf_spec (hn : 0 < n) (hd : 0 < d) :
    (n / d : ℚ) < 2 ^ 53 * 2 ^ exponentOf n d ∧
      (2 ^ 52 * 2 ^ exponentOf n d ≤ (n / d : ℚ) ∨ exponentOf n d = -1074) ∧
      -1074 ≤ exponentOf n d := by
  have hd' : (0 : ℚ) < d := by exact_mod_cast hd
  have hn₁ : (2 : ℚ) ^ n.log2 ≤ n := by exact_mod_cast Nat.log2_self_le hn.ne'
  have hn₂ : (n : ℚ) < 2 ^ (n.log2 + 1) := by exact_mod_cast Nat.lt_log2_self
  have hd₁ : (2 : ℚ) ^ d.log2 ≤ d := by exact_mod_cast Nat.log2_self_le hd.ne'
  have hd₂ : (d : ℚ) < 2 ^ (d.log2 + 1) := by exact_mod_cast Nat.lt_log2_self
  obtain ⟨e₀, he₀⟩ : ∃ e₀ : ℤ, e₀ = (n.log2 : ℤ) - d.log2 - 53 := ⟨_, rfl⟩
  have hlow : (2 : ℚ) ^ 52 * 2 ^ e₀ ≤ n / d := by
    rw [le_div_iff₀ hd']
    calc (2 : ℚ) ^ 52 * 2 ^ e₀ * d ≤ 2 ^ 52 * 2 ^ e₀ * 2 ^ (d.log2 + 1) := by gcongr
      _ = 2 ^ n.log2 := by
        rw [← zpow_natCast, ← zpow_natCast, ← zpow_natCast, ← zpow_add₀ two_ne_zero,
          ← zpow_add₀ two_ne_zero]
        congr 1
        push_cast
        omega
      _ ≤ n := hn₁
  have hhigh : (n / d : ℚ) < 2 ^ 54 * 2 ^ e₀ := by
    rw [div_lt_iff₀ hd']
    calc (n : ℚ) < 2 ^ (n.log2 + 1) := hn₂
      _ = 2 ^ 54 * 2 ^ e₀ * 2 ^ d.log2 := by
        rw [← zpow_natCast, ← zpow_natCast, ← zpow_natCast, ← zpow_add₀ two_ne_zero,
          ← zpow_add₀ two_ne_zero]
        congr 1
        push_cast
        omega
      _ ≤ 2 ^ 54 * 2 ^ e₀ * d := by gcongr
  -- the exponent before the least one is set as a bound
  obtain ⟨e₁, hexponent, hlow, hhigh⟩ : ∃ e₁ : ℤ, exponentOf n d = max e₁ (-1074) ∧
      2 ^ 52 * 2 ^ e₁ ≤ (n / d : ℚ) ∧ (n / d : ℚ) < 2 ^ 53 * 2 ^ e₁ := by
    unfold exponentOf
    rw [← he₀]
    dsimp only
    split
    case isTrue hlt =>
      exact ⟨e₀, rfl, hlow, by exact_mod_cast (quotient_lt_iff hd).1 hlt⟩
    case isFalse hge =>
      refine ⟨e₀ + 1, rfl, ?_, ?_⟩
      · have hge := mt (quotient_lt_iff hd).2 hge
        rw [zpow_add_one₀ two_ne_zero]
        push_cast [Nat.pow_eq] at hge
        linarith
      · rw [zpow_add_one₀ two_ne_zero]
        linarith
  rcases le_or_gt (-1074) e₁ with hleast | hleast
  · rw [hexponent, max_eq_left hleast]
    exact ⟨hhigh, .inl hlow, hleast⟩
  · rw [hexponent, max_eq_right hleast.le]
    refine ⟨hhigh.trans_le ?_, .inr rfl, le_rfl⟩
    exact mul_le_mul_of_nonneg_left (zpow_le_zpow_right₀ one_le_two hleast.le) (by positivity)

/-! ## Fractions -/

theorem narrowBelow_iff : x.narrowBelow = true ↔ x.significand = 2 ^ 52 ∧ -1074 < x.exponent := by
  simp [narrowBelow, Nat.pow_eq]

theorem lower_pos (hpos : 0 < x.significand) : 0 < x.lower := by
  have hone : (1 : ℚ) ≤ x.significand := by exact_mod_cast hpos
  refine mul_pos ?_ (by positivity)
  split <;> linarith

/-- What rounds to a number is no further away from it than half its unit. -/
theorem RoundsTo.half_lt (hq : x.RoundsTo q) : (x.significand - 1 / 2 : ℚ) * 2 ^ x.exponent < q ∨
    Even x.significand ∧ (x.significand - 1 / 2 : ℚ) * 2 ^ x.exponent = q := by
  have hunit : (0 : ℚ) < 2 ^ x.exponent := by positivity
  have hlower := hq.lower_le
  unfold lower at hlower
  split at hlower
  · have hlower := hlower.elim le_of_lt fun h => h.2.le
    exact .inl (by linarith)
  · exact hlower

theorem RoundsTo.lt (hq : x.RoundsTo q) (hx : x.IsRounded) : q < 2 ^ 53 * 2 ^ x.exponent := by
  have hunit : (0 : ℚ) < 2 ^ x.exponent := by positivity
  have hm : (x.significand + 1 : ℚ) ≤ 2 ^ 53 := by exact_mod_cast hx.significand_lt
  calc q ≤ (x.significand + 1 / 2) * 2 ^ x.exponent := hq.le_upper.elim le_of_lt fun h => h.2.le
    _ < 2 ^ 53 * 2 ^ x.exponent := by nlinarith

theorem RoundsTo.lower_le' (hq : x.RoundsTo q) : x.lower ≤ q :=
  hq.lower_le.elim le_of_lt fun h => h.2.le

/-- The exponent of what rounds to a number is that of the number, except right below a power of two,
where it is one less. -/
theorem exponentOf_roundsTo (hx : x.IsRounded) (hn : 0 < n) (hd : 0 < d) (hq : x.RoundsTo (n / d)) :
    exponentOf n d = x.exponent ∨ exponentOf n d = x.exponent - 1 ∧ x.narrowBelow = true := by
  obtain ⟨hlt, hge, hleast⟩ := exponentOf_spec hn hd
  have hunit : (0 : ℚ) < 2 ^ x.exponent := by positivity
  rcases lt_trichotomy (exponentOf n d) x.exponent with h | h | h
  · have hbelow := zpow_le_zpow_right₀ (one_le_two (α := ℚ)) (Int.le_sub_one_of_lt h)
    rw [zpow_sub_one₀ two_ne_zero] at hbelow
    have hnormal : 2 ^ 52 ≤ x.significand := hx.normal.resolve_right (by omega)
    have hnarrow : x.narrowBelow = true := by
      refine narrowBelow_iff.2 ⟨le_antisymm ?_ hnormal, by omega⟩
      have hlow : (x.significand - 1 / 2 : ℚ) * 2 ^ x.exponent < 2 ^ 52 * 2 ^ x.exponent := by
        have := hq.half_lt.elim le_of_lt fun h => h.2.le
        linarith
      have hlow := lt_of_mul_lt_mul_right hlow hunit.le
      have : (x.significand : ℚ) < 2 ^ 52 + 1 := by linarith
      exact Nat.lt_succ_iff.1 (by exact_mod_cast this)
    refine .inr ⟨le_antisymm (by omega) (not_lt.1 fun hfar => ?_), hnarrow⟩
    have hfar := zpow_le_zpow_right₀ (one_le_two (α := ℚ)) (Int.le_sub_one_of_lt hfar)
    rw [zpow_sub_one₀ two_ne_zero, zpow_sub_one₀ two_ne_zero] at hfar
    have hlower := hq.lower_le'
    have hnormal : (2 ^ 52 : ℚ) ≤ x.significand := by exact_mod_cast hnormal
    rw [lower, if_pos hnarrow] at hlower
    nlinarith
  · exact .inl h
  · have habove := zpow_le_zpow_right₀ (one_le_two (α := ℚ)) (Int.add_one_le_of_lt h)
    rw [zpow_add_one₀ two_ne_zero] at habove
    have := hq.lt hx
    have := hge.resolve_right (by have := hx.le_exponent; omega)
    linarith

/-- A fraction is rounded to the number in whose interval it lies. -/
theorem ofRatio?_roundsTo (hx : x.IsRounded) (hpos : 0 < x.significand) (hd : 0 < d)
    (hq : x.RoundsTo (n / d)) : ofRatio? x.negative n d = some x := by
  have hn : 0 < n := by
    have hratio : (0 : ℚ) < n / d := (lower_pos hpos).trans_le hq.lower_le'
    exact Nat.pos_of_ne_zero fun h => by simp [h] at hratio
  have hrounded : (if inUnits n d (exponentOf n d) = Nat.pow 2 53 then
      (Nat.pow 2 52, exponentOf n d + 1) else (inUnits n d (exponentOf n d), exponentOf n d)) =
        (x.significand, x.exponent) := by
    obtain hexponent | ⟨hexponent, hnarrow⟩ := exponentOf_roundsTo hx hn hd hq
    · rw [hexponent, inUnits_eq hd hq.half_lt hq.le_upper, Nat.pow_eq, if_neg hx.significand_lt.ne]
    · -- right below a power of two, to which the significand is rounded up
      obtain ⟨hsignificand, -⟩ := narrowBelow_iff.1 hnarrow
      have hunit : (0 : ℚ) < 2 ^ (x.exponent - 1) := by positivity
      have hlt := (exponentOf_spec hn hd).1
      have hlower := hq.lower_le
      rw [hexponent] at hlt
      rw [lower, if_pos hnarrow, hsignificand, ← sub_add_cancel x.exponent 1,
        zpow_add_one₀ two_ne_zero] at hlower
      push_cast at hlower
      have hunits : inUnits n d (x.exponent - 1) = 2 ^ 53 := by
        refine inUnits_eq hd (hlower.imp (fun h => ?_) fun ⟨_, h⟩ => ⟨by decide, ?_⟩) (.inl ?_)
        all_goals
          push_cast
          linarith
      rw [hexponent, hunits, Nat.pow_eq, Nat.pow_eq, if_pos rfl, sub_add_cancel, hsignificand]
  unfold ofRatio?
  rw [if_neg hn.ne']
  dsimp only
  rw [hrounded]
  exact if_neg (not_lt.2 hx.exponent_le)

theorem roundQuotient_bounds (n d : ℕ) :
    n / d ≤ roundQuotient n d ∧ roundQuotient n d ≤ n / d + 1 := by
  unfold roundQuotient
  generalize n / d = p
  dsimp only
  split <;> omega

theorem zero_isRounded (negative : Bool) : (zero negative).IsRounded :=
  ⟨Nat.pow_pos two_pos, .inr rfl, le_rfl, by simp [zero]⟩

/-- What is rounded has the form that rounding gives. -/
theorem ofRatio?_isRounded {negative : Bool} (hd : 0 < d) (h : ofRatio? negative n d = some x) :
    x.IsRounded := by
  unfold ofRatio? at h
  split at h
  · cases h
    exact zero_isRounded negative
  case isFalse hn =>
    obtain ⟨hlt, hge, hleast⟩ := exponentOf_spec (Nat.pos_of_ne_zero hn) hd
    obtain ⟨hfloor, hceil⟩ := roundQuotient_bounds (n * Nat.pow 2 (-exponentOf n d).toNat)
      (d * Nat.pow 2 (exponentOf n d).toNat)
    have hlt := (quotient_lt_iff (m := 2 ^ 53) hd).2 (by exact_mod_cast hlt)
    have hge : 2 ^ 52 ≤ inUnits n d (exponentOf n d) ∨ exponentOf n d = -1074 :=
      hge.imp_left fun hge => (not_lt.1 fun hlt => not_lt.2 hge
        (by exact_mod_cast (quotient_lt_iff hd).1 hlt)).trans hfloor
    dsimp only at h
    by_cases hcarry : inUnits n d (exponentOf n d) = Nat.pow 2 53
    · rw [if_pos hcarry] at h
      split at h
      · cases h
      · cases h
        exact ⟨Nat.pow_lt_pow_right (by decide) (by decide), .inl le_rfl, by dsimp only; omega,
          by dsimp only; omega⟩
    · rw [if_neg hcarry] at h
      split at h
      · cases h
      · cases h
        refine ⟨lt_of_le_of_ne ?_ hcarry, hge, hleast, by dsimp only; omega⟩
        exact hceil.trans (Nat.succ_le_of_lt hlt)

/-! ## Decimals -/

/-- The count of the decimal digits says between which powers of ten a number is. -/
theorem length_toDigits_spec (hn : 0 < n) : 10 ^ ((Nat.toDigits 10 n).length - 1) ≤ n ∧
    n < 10 ^ (Nat.toDigits 10 n).length := by
  have hlength : 0 < (Nat.toDigits 10 n).length := Nat.length_toDigits_pos
  refine ⟨?_, (Nat.length_toDigits_le_iff (by decide) hlength).1 le_rfl⟩
  rcases Nat.eq_zero_or_pos ((Nat.toDigits 10 n).length - 1) with hone | hmore
  · rwa [hone, pow_zero]
  · exact not_lt.1 fun hlt => by
      have := (Nat.length_toDigits_le_iff (by decide) hmore).2 hlt
      omega

theorem RoundsTo.lt_greatest (hq : x.RoundsTo q) (hx : x.IsRounded) : q < 10 ^ (310 : ℤ) :=
  calc q < 2 ^ 53 * 2 ^ x.exponent := hq.lt hx
    _ ≤ 2 ^ 53 * 2 ^ (971 : ℤ) :=
      mul_le_mul_of_nonneg_left (zpow_le_zpow_right₀ one_le_two hx.exponent_le) (by positivity)
    _ < 10 ^ (310 : ℤ) := by
      have hpow : 2 ^ 53 * 2 ^ 971 < 10 ^ 310 := by decide +kernel
      exact_mod_cast hpow

theorem RoundsTo.least_lt (hq : x.RoundsTo q) (hx : x.IsRounded) (hpos : 0 < x.significand) :
    10 ^ (-331 : ℤ) < q := by
  have hone : (1 : ℚ) ≤ x.significand := by exact_mod_cast hpos
  have hpow : 2 ^ 1075 < 10 ^ 331 := by decide +kernel
  calc (10 : ℚ) ^ (-331 : ℤ) < (2 ^ 1075)⁻¹ := by
        rw [zpow_neg]
        refine inv_strictAnti₀ (by positivity) ?_
        exact_mod_cast hpow
    _ = 1 / 2 * 2 ^ (-1074 : ℤ) := by
        rw [zpow_neg, pow_succ, mul_inv, mul_comm, one_div]
        rfl
    _ ≤ (x.significand - if x.narrowBelow then 1 / 4 else 1 / 2) * 2 ^ x.exponent := by
      refine mul_le_mul ?_ (zpow_le_zpow_right₀ one_le_two hx.le_exponent) (by positivity) ?_ <;>
        split <;> linarith
    _ ≤ q := hq.lower_le'

theorem ofDecimal?_isRounded {negative : Bool} (h : ofDecimal? negative n e = some x) :
    x.IsRounded := by
  unfold ofDecimal? at h
  dsimp only at h
  split at h
  · cases h
    exact zero_isRounded negative
  split at h
  · cases h
  split at h
  · cases h
    exact zero_isRounded negative
  · exact ofRatio?_isRounded (Nat.pow_pos (by decide)) h

theorem ofInt_isRounded (i : ℤ) : (ofInt i).IsRounded := by
  unfold ofInt ofNat?
  cases h : ofRatio? (decide (i < 0)) i.natAbs 1 with
  | none => exact zero_isRounded false
  | some x => exact ofRatio?_isRounded one_pos h

/-- A decimal is rounded to the number in whose interval it lies, however its digits and its exponent
share out the powers of ten. -/
theorem ofDecimal?_roundsTo (hx : x.IsRounded) (hpos : 0 < x.significand)
    (hq : x.RoundsTo (n * 10 ^ e)) : ofDecimal? x.negative n e = some x := by
  have hn : 0 < n := by
    have hdecimal : (0 : ℚ) < n * 10 ^ e := (lower_pos hpos).trans_le hq.lower_le'
    exact Nat.pos_of_ne_zero fun h => by simp [h] at hdecimal
  obtain ⟨hleast, hgreatest⟩ := length_toDigits_spec hn
  have hlength : 0 < (Nat.toDigits 10 n).length := Nat.length_toDigits_pos
  unfold ofDecimal?
  generalize (Nat.toDigits 10 n).length = length at *
  dsimp only
  have hnotLarge : ¬310 < (length : ℤ) + e := fun h => by
    have := calc (10 : ℚ) ^ (310 : ℤ) ≤ 10 ^ (((length - 1 : ℕ) : ℤ) + e) :=
          zpow_le_zpow_right₀ (by norm_num) (by omega)
      _ = 10 ^ (length - 1) * 10 ^ e := by rw [zpow_add₀ (by norm_num), zpow_natCast]
      _ ≤ n * 10 ^ e := by gcongr; exact_mod_cast hleast
      _ < 10 ^ (310 : ℤ) := hq.lt_greatest hx
    exact this.false
  have hnotSmall : ¬(length : ℤ) + e < -330 := fun h => by
    have := calc (10 : ℚ) ^ (-331 : ℤ) < n * 10 ^ e := hq.least_lt hx hpos
      _ ≤ 10 ^ length * 10 ^ e := by gcongr; exact_mod_cast hgreatest.le
      _ = 10 ^ ((length : ℤ) + e) := by rw [zpow_add₀ (by norm_num), zpow_natCast]
      _ ≤ 10 ^ (-331 : ℤ) := zpow_le_zpow_right₀ (by norm_num) (by omega)
    exact this.false
  rw [if_neg hn.ne', if_neg hnotLarge, if_neg hnotSmall]
  refine ofRatio?_roundsTo hx hpos (Nat.pow_pos (by decide)) ?_
  rw [zpow_eq_div (by norm_num)] at hq
  push_cast [Nat.pow_eq]
  rwa [mul_div_assoc]

end Binary64

end OpenApi

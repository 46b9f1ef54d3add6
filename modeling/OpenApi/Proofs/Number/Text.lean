import OpenApi.Number.Notation
import OpenApi.Proofs.Number.Shortest
import OpenApi.Text.Split
import OpenApi.Yaml.Scalar.Value

/-!
The text of a number reads back to it, in every style (`decimal?_text`): where the point goes and whether
there is an exponent makes no difference to the decimal that the text writes.
-/

namespace OpenApi

/-! ## Digits -/

namespace Text

theorem isDigit_of_mem_toDigits {n : ℕ} {c : Char} (hc : c ∈ Nat.toDigits 10 n) : isDigit c = true :=
  Nat.isDigit_of_mem_toDigits (by decide) (by decide) hc

theorem ofDigits_toDigits (n : ℕ) : ofDigits (Nat.toDigits 10 n) = n :=
  Nat.ofDigitChars_toDigits (by decide) (by decide)

/-- Zeros before the digits do not count. -/
theorem ofDigits_zeros_append (n : ℕ) (digits : List Char) :
    ofDigits (List.replicate n '0' ++ digits) = ofDigits digits := by
  change Nat.ofDigitChars 10 _ 0 = Nat.ofDigitChars 10 _ 0
  rw [Nat.ofDigitChars_append, Nat.ofDigitChars_replicate_zero, mul_zero]

/-- Each zero behind the digits counts for a power of ten. -/
theorem ofDigits_append_zeros (n : ℕ) (digits : List Char) :
    ofDigits (digits ++ List.replicate n '0') = ofDigits digits * 10 ^ n := by
  change Nat.ofDigitChars 10 _ 0 = Nat.ofDigitChars 10 _ 0 * 10 ^ n
  rw [Nat.ofDigitChars_append, Nat.ofDigitChars_replicate_zero, mul_comm]

end Text

namespace Yaml

variable {negative : Bool} {whole fraction tail : List Char} {e : ℤ}

/-- A number with its sign, the digits before and behind the point, and what follows. -/
def written (negative : Bool) (whole fraction tail : List Char) : List Char :=
  (if negative then ['-'] else []) ++
    (whole ++ ((if fraction = [] then [] else '.' :: fraction) ++ tail))

theorem signed_written (hne : whole ≠ []) (hwhole : ∀ c ∈ whole, Text.isDigit c = true) :
    signed (written negative whole fraction tail) = (negative, written false whole fraction tail) := by
  cases negative with
  | true => rfl
  | false =>
    obtain ⟨c, rest, rfl⟩ := List.exists_cons_of_ne_nil hne
    have hc := hwhole c List.mem_cons_self
    unfold written signed
    simp only [Bool.false_eq_true, if_false, List.nil_append, List.cons_append]
    split
    · cases ‹_ :: _ = _›
      cases hc
    · cases ‹_ :: _ = _›
      cases hc
    · rfl

/-- The number is read off its parts. -/
theorem decimal?_written (hne : whole ≠ []) (hwhole : ∀ c ∈ whole, Text.isDigit c = true)
    (hfraction : ∀ c ∈ fraction, Text.isDigit c = true) (htail : ∀ c ∈ tail.head?, c = 'e')
    (hread : Json.readExponent tail = some (e, [])) :
    decimal? (written negative whole fraction tail) =
      Binary64.ofDecimal? negative (Text.ofDigits (whole ++ fraction)) (e - fraction.length) := by
  have hend : ∀ c ∈ tail.head?, Text.isDigit c = false := fun c hc => htail c hc ▸ rfl
  have hrest : ∀ c ∈ ((if fraction = [] then [] else '.' :: fraction) ++ tail).head?,
      Text.isDigit c = false := by
    split
    · exact hend
    · rintro c ⟨⟩
      rfl
  obtain ⟨htake, hdrop⟩ := Text.span_append hwhole hrest
  unfold decimal?
  rw [signed_written hne hwhole]
  unfold written
  simp only [Bool.false_eq_true, if_false, List.nil_append, htake, hdrop]
  by_cases hempty : fraction = []
  · -- nothing stands behind the digits but an exponent
    subst hempty
    rcases tail with _ | ⟨c, tail⟩
    · simp [hne, hread]
    · obtain rfl := htail c rfl
      simp [hne, hread]
  · obtain ⟨htake, hdrop⟩ := Text.span_append hfraction hend
    simp [hempty, htake, hdrop, hne, hread]

/-- A text without a sign writes a number: digits, a point among them or none, and an exponent. -/
inductive Writes (text : List Char) (q : ℚ) : Prop
  | intro (whole fraction tail : List Char) (e : ℤ) (text_eq : text = written false whole fraction tail)
      (hne : whole ≠ []) (hdigits : ∀ c ∈ whole ++ fraction, Text.isDigit c = true)
      (htail : ∀ c ∈ tail.head?, c = 'e') (hread : Json.readExponent tail = some (e, []))
      (value_eq : q = Text.ofDigits (whole ++ fraction) * 10 ^ (e - fraction.length))

theorem Writes.decimal? {text : List Char} {q : ℚ} (h : Writes text q) : ∃ (n : ℕ) (e : ℤ),
    q = n * 10 ^ e ∧ ∀ negative, decimal? ((if negative then ['-'] else []) ++ text) =
      Binary64.ofDecimal? negative n e := by
  obtain ⟨whole, fraction, tail, e, rfl, hne, hdigits, htail, hread, hq⟩ := h
  exact ⟨_, _, hq, fun negative => decimal?_written hne
    (fun c hc => hdigits c (List.mem_append_left _ hc))
    (fun c hc => hdigits c (List.mem_append_right _ hc)) htail hread⟩

/-! ## Layouts -/

variable {digits : List Char} {exponent : ℤ}

theorem isDigit_of_mem_zeros {n : ℕ} {c : Char} (hc : c ∈ List.replicate n '0') :
    Text.isDigit c = true := by
  rw [List.eq_of_mem_replicate hc]
  rfl

/-- Zeros stand for the exponent behind whole digits, and a point with another one makes no
difference. -/
theorem writes_whole (pointZero : Bool) (hne : digits ≠ [])
    (hdigits : ∀ c ∈ digits, Text.isDigit c = true) (zeros : ℕ) :
    Writes (digits ++ List.replicate zeros '0' ++ if pointZero then ['.', '0'] else [])
      (Text.ofDigits digits * 10 ^ zeros) := by
  refine .intro (digits ++ List.replicate zeros '0') (if pointZero then ['0'] else []) [] 0 ?_
    (by simp [hne]) (fun c hc => ?_) nofun rfl ?_
  · cases pointZero <;> simp [written]
  · rcases List.mem_append.1 hc with hc | hc
    · exact (List.mem_append.1 hc).elim (hdigits c) isDigit_of_mem_zeros
    · cases pointZero with
      | true => exact isDigit_of_mem_zeros (n := 1) hc
      | false => cases hc
  · cases pointZero with
    | true =>
      have hzeros := Text.ofDigits_append_zeros (zeros + 1) digits
      rw [List.replicate_succ', ← List.append_assoc] at hzeros
      simp only [if_true, hzeros]
      push_cast
      rw [pow_succ]
      norm_num
      ring
    | false =>
      simp [Text.ofDigits_append_zeros]

/-- Wherever the point is put, the text writes what the digits and the exponent stand for. -/
theorem positionalText_writes (style : NumberStyle) (hne : digits ≠ [])
    (hdigits : ∀ c ∈ digits, Text.isDigit c = true) :
    Writes (style.positionalText digits exponent) (Text.ofDigits digits * 10 ^ exponent) := by
  have hlength : 0 < digits.length := List.length_pos_iff.2 hne
  unfold NumberStyle.positionalText
  dsimp only
  split
  case isTrue hwhole =>
    obtain ⟨zeros, rfl⟩ := Int.eq_ofNat_of_zero_le hwhole
    rw [zpow_natCast]
    exact writes_whole style.pointZero hne hdigits zeros
  case isFalse hfraction =>
    split
    case isTrue hpoint =>
      -- the point stands among the digits
      obtain ⟨count, hcount⟩ := Int.eq_ofNat_of_zero_le hpoint.le
      rw [hcount, Int.toNat_natCast]
      have hdrop : digits.drop count ≠ [] := by
        rw [Ne, List.drop_eq_nil_iff]
        omega
      refine .intro (digits.take count) (digits.drop count) [] 0 ?_ (fun hnil => ?_)
        (by rwa [List.take_append_drop]) nofun rfl ?_
      · simp only [written, hdrop]
        simp
      · exact (List.take_eq_nil_iff.1 hnil).elim (fun h => by omega) hne
      · rw [List.take_append_drop, List.length_drop]
        congr 2
        omega
    case isFalse hpoint =>
      -- zeros stand between the point and the digits
      refine .intro ['0'] (List.replicate (-(digits.length + exponent)).toNat '0' ++ digits) [] 0 ?_
        (by simp) (fun c hc => ?_) nofun rfl ?_
      · simp [written, hne]
      · rcases List.mem_append.1 hc with hc | hc
        · exact isDigit_of_mem_zeros (n := 1) hc
        · exact (List.mem_append.1 hc).elim isDigit_of_mem_zeros (hdigits c)
      · have hzeros := Text.ofDigits_zeros_append (1 + (-(digits.length + exponent)).toNat) digits
        rw [← List.replicate_append_replicate, List.append_assoc] at hzeros
        rw [show ['0'] = List.replicate 1 '0' from rfl, hzeros, List.length_append,
          List.length_replicate]
        congr 2
        omega

theorem readExponent_written (e : ℤ) : Json.readExponent
    (['e', if e < 0 then '-' else '+'] ++ Nat.toDigits 10 e.natAbs) = some (e, []) := by
  have hdigits : ∀ c ∈ Nat.toDigits 10 e.natAbs, Text.isDigit c = true :=
    fun c hc => Text.isDigit_of_mem_toDigits hc
  obtain ⟨htake, hdrop⟩ := @Text.span_append _ _ [] hdigits nofun
  rw [List.append_nil] at htake hdrop
  have hne : Nat.toDigits 10 e.natAbs ≠ [] := List.length_pos_iff.1 Nat.length_toDigits_pos
  unfold Json.readExponent
  by_cases he : e < 0
  · simp only [he, if_true, List.cons_append, List.nil_append, true_or, htake, hdrop,
      Text.ofDigits_toDigits, List.isEmpty_iff, if_neg hne]
    congr 2
    omega
  · simp only [he, if_false, List.cons_append, List.nil_append, true_or, if_true, htake, hdrop,
      Text.ofDigits_toDigits, List.isEmpty_iff, if_neg hne]
    congr 2
    simp
    omega

/-- So does the text with a single digit before the point and an exponent. -/
theorem scientificText_writes (hne : digits ≠ []) (hdigits : ∀ c ∈ digits, Text.isDigit c = true)
    (e : ℤ) : Writes (NumberStyle.scientificText digits e)
      (Text.ofDigits digits * 10 ^ (e + 1 - digits.length)) := by
  obtain ⟨d, rest, rfl⟩ := List.exists_cons_of_ne_nil hne
  refine .intro [d] rest _ e ?_ (by simp) hdigits ?_ (readExponent_written e) ?_
  · cases rest <;> simp [NumberStyle.scientificText, written]
  · rintro c ⟨⟩
    rfl
  · rw [List.singleton_append, List.length_cons]
    congr 2
    push_cast
    omega

end Yaml

/-! ## Numbers -/

/-- The text of a number in any style reads back to the number. -/
theorem NumberStyle.decimal?_text (style : NumberStyle) {x : Binary64} (hx : x.IsRounded) :
    Yaml.decimal? (style.text x).toList = some x := by
  unfold NumberStyle.text
  rw [String.toList_ofList]
  obtain ⟨d, hd⟩ : ∃ d, d = Decimal.shortest style.tie x := ⟨_, rfl⟩
  rw [← hd]
  have hne : Nat.toDigits 10 d.digits ≠ [] := List.length_pos_iff.1 Nat.length_toDigits_pos
  have hdigits : ∀ c ∈ Nat.toDigits 10 d.digits, Text.isDigit c = true :=
    fun c hc => Text.isDigit_of_mem_toDigits hc
  have hwrites : Yaml.Writes (if style.positional d.leading then
      style.positionalText (Nat.toDigits 10 d.digits) d.exponent
      else scientificText (Nat.toDigits 10 d.digits) d.leading) d.value := by
    split
    · have h := @Yaml.positionalText_writes _ d.exponent style hne hdigits
      rwa [Text.ofDigits_toDigits] at h
    · have h := Yaml.scientificText_writes hne hdigits d.leading
      have hexponent : d.leading + 1 - (Nat.toDigits 10 d.digits).length = d.exponent := by
        unfold Decimal.leading
        omega
      rwa [Text.ofDigits_toDigits, hexponent] at h
  obtain ⟨n, e, hvalue, hread⟩ := hwrites.decimal?
  rw [hread]
  rcases Nat.eq_zero_or_pos x.significand with hzero | hpos
  · -- zero has no digits, and only the sign tells which one it is
    have hexponent : x.exponent = -1074 := hx.normal.resolve_left (by omega)
    have hdecimal : d = ⟨0, 0⟩ := by
      rw [hd, Decimal.shortest, if_pos hzero]
    have hn : n = 0 := by
      have hten : (10 : ℚ) ^ e ≠ 0 := zpow_ne_zero e (by norm_num)
      simpa [hdecimal, Decimal.value, hten] using hvalue.symm
    rw [hn, Binary64.ofDecimal?]
    rw [if_pos rfl, Binary64.zero, ← hzero, ← hexponent]
  · have hrounds := Decimal.shortest_roundsTo style.tie hpos
    rw [← hd, hvalue] at hrounds
    exact Binary64.ofDecimal?_roundsTo hx hpos hrounds

end OpenApi

import OpenApi.Compiler.Unpacking
import OpenApi.Format.Template
import OpenApi.Proofs.Code.Literals
import OpenApi.Proofs.Conversion.Walk
import OpenApi.Proofs.Files.Results
import OpenApi.Proofs.Number.Text

/-!
The bounds of numbers, as a schema means them and as generated code tests them. The statements that the
code begins with are read back, with the numbers in them; none of the comparisons that they make holds of
a number if and only if the schema admits it (`failChecks_admit_iff`).
-/

namespace OpenApi

/-! ## Comparisons -/

/-- An operator that compares two numbers. -/
inductive Comparator where
  | lt
  | le
  | gt
  | ge
  deriving DecidableEq, Repr

namespace Comparator

def text : Comparator → String
  | lt => "<"
  | le => "<="
  | gt => ">"
  | ge => ">="

/-- The comparison is true. -/
def Holds : Comparator → ℚ → ℚ → Prop
  | lt, a, b => a < b
  | le, a, b => a ≤ b
  | gt, a, b => b < a
  | ge, a, b => b ≤ a

/-- The operator that a text is. -/
def ofText? (text : List Char) : Option Comparator :=
  [lt, le, gt, ge].find? fun comparator => comparator.text.toList = text

theorem ofText?_text (comparator : Comparator) : ofText? comparator.text.toList = some comparator := by
  cases comparator <;> decide

end Comparator

/-- The comparison of a value with a number. -/
structure Comparison where
  comparator : Comparator
  bound : Binary64

namespace Comparison

/-- The comparison is true of the value. -/
def Holds (comparison : Comparison) (v : ℚ) : Prop :=
  comparison.comparator.Holds v comparison.bound.value

/-- The comparison of the variable `value` with a number, if the words of a condition are one. -/
def ofWords? (value : String) : List (List Char) → Option Comparison
  | [left, comparator, right] =>
    if left = value.toList then do
      return ⟨← Comparator.ofText? comparator, ← Yaml.decimal? right⟩
    else none
  | _ => none

/-- The comparison of the variable `value` with a number that is the condition of a statement, if it
is one. The condition ends with the first parenthesis that closes, and blanks separate its words. -/
def ofStatement? (value : String) (statement : List Char) : Option Comparison :=
  if "if (".toList.isPrefixOf statement then
    ofWords? value (((statement.drop 4).takeWhile (· ≠ ')')).splitOn ' ')
  else none

end Comparison

/-! ## Reading -/

variable {value : String}

theorem not_mem_of_all {p : Char → Bool} {text : List Char} {c : Char} (h : text.all p = true)
    (hc : p c = false) : c ∉ text := fun hmem => by
  have := List.all_eq_true.1 h c hmem
  rw [hc] at this
  cases this

theorem not_mem_bound {c : Char} (bound : Binary64) (hc : Lex.isNumeric c = false) :
    c ∉ (Check.boundStyle.text bound).toList :=
  not_mem_of_all (Lex.numberStyle_numeric Check.boundStyle bound) hc

theorem mem_intercalate {c : Char} {separator : List Char} {words : List (List Char)}
    (h : c ∈ separator.intercalate words) : c ∈ separator ∨ ∃ word ∈ words, c ∈ word := by
  induction words with
  | nil => cases h
  | cons word words ih =>
    by_cases hwords : words = []
    · rw [hwords, List.intercalate_singleton] at h
      exact .inr ⟨word, List.mem_cons_self, h⟩
    · rw [List.intercalate_cons_of_ne_nil hwords] at h
      rcases List.mem_append.1 h with h | h
      · exact (List.mem_append.1 h).elim (fun h => .inr ⟨word, List.mem_cons_self, h⟩) .inl
      · exact (ih h).imp_right fun ⟨word, hmem, h⟩ => ⟨word, List.mem_cons_of_mem _ hmem, h⟩

/-- The words of the condition of a statement are those that it is written with. -/
theorem ofStatement?_words {words : List (List Char)} (hne : words ≠ [])
    (hwords : ∀ word ∈ words, ' ' ∉ word ∧ ')' ∉ word) (rest : List Char) :
    Comparison.ofStatement? value ("if (".toList ++ ([' '].intercalate words ++ ')' :: rest)) =
      Comparison.ofWords? value words := by
  have hcondition : ∀ c ∈ [' '].intercalate words, decide (c ≠ ')') = true := by
    intro c hc
    refine decide_eq_true fun heq => ?_
    rcases mem_intercalate (heq ▸ hc) with hblank | ⟨word, hmem, hclose⟩
    · simp at hblank
    · exact (hwords word hmem).2 hclose
  unfold Comparison.ofStatement?
  rw [if_pos (by simp), List.drop_left' (by decide), List.takeWhile_append_of_pos hcondition,
    List.takeWhile_cons_of_neg (by decide), List.append_nil,
    List.splitOn_intercalate ' ' (fun word hmem => (hwords word hmem).1) hne]

/-- A statement that compares the value with a bound is read as that. -/
theorem ofStatement?_compared (hvalue : value.toList.all Name.isIdentifierPart = true) {bound : Binary64}
    (hbound : bound.IsRounded) (comparator : Comparator) (rest : String) :
    Comparison.ofStatement? value ("if (" ++ (value ++ " " ++ comparator.text ++ " " ++
      Check.boundStyle.text bound) ++ ") " ++ rest).toList = some ⟨comparator, bound⟩ := by
  have hcomparator : ' ' ∉ comparator.text.toList ∧ ')' ∉ comparator.text.toList := by
    cases comparator <;> decide
  have hread := @ofStatement?_words value
    [value.toList, comparator.text.toList, (Check.boundStyle.text bound).toList] (by simp)
    (by simpa using ⟨⟨not_mem_of_all hvalue rfl, not_mem_of_all hvalue rfl⟩, hcomparator,
      not_mem_bound bound rfl, not_mem_bound bound rfl⟩) (" " ++ rest).toList
  have hwords : Comparison.ofWords? value [value.toList, comparator.text.toList,
      (Check.boundStyle.text bound).toList] = some ⟨comparator, bound⟩ := by
    simp [Comparison.ofWords?, Comparator.ofText?_text, Check.boundStyle.decimal?_text hbound]
  rw [← hwords, ← hread]
  congr 1
  simp [List.intercalate_cons_cons, List.append_assoc]

/-- The check of a divisor compares something else. -/
theorem ofStatement?_multiple (hvalue : value.toList.all Name.isIdentifierPart = true)
    (divisor : Binary64) (rest : String) : Comparison.ofStatement? value
      ("if (" ++ (Check.multiple value divisor).failure ++ ") " ++ rest).toList = none := by
  have hblank := not_mem_of_all hvalue (rfl : Name.isIdentifierPart ' ' = false)
  have hclose := not_mem_of_all hvalue (rfl : Name.isIdentifierPart ')' = false)
  have hread := @ofStatement?_words value
    ["Math.abs(".toList ++ value.toList, ['/'], (Check.boundStyle.text divisor).toList, ['-'],
      "Math.round(".toList ++ value.toList, ['/'], (Check.boundStyle.text divisor).toList] (by simp)
    (by simp [hblank, hclose, not_mem_bound divisor (rfl : Lex.isNumeric ' ' = false),
      not_mem_bound divisor (rfl : Lex.isNumeric ')' = false)]) (") > 1e-9) " ++ rest).toList
  refine Eq.trans ?_ hread
  congr 1
  simp [Check.multiple, List.intercalate_cons_cons, List.append_assoc]

/-! ## Statements -/

namespace Check

/-- The statement that rejects a value which fails the check. -/
def statement (location parameter : String) (check : Check) : String :=
  "if (" ++ check.failure ++ ") " ++ ("throw new Runtime.MalformedError(" ++ Text.quoted location ++
    ", " ++ Text.quoted parameter ++ ", " ++ Text.quoted check.message ++ ");")

/-- No comparison that the statement of the check is holds of the value. -/
def Passes (location parameter value : String) (v : ℚ) (check : Check) : Prop :=
  ∀ comparison, Comparison.ofStatement? value (check.statement location parameter).toList =
    some comparison → ¬comparison.Holds v

variable {location parameter : String} {bound : Binary64} {v : ℚ}

theorem passes_iff (hvalue : value.toList.all Name.isIdentifierPart = true) (hbound : bound.IsRounded)
    (comparator : Comparator) {check : Check}
    (h : check.failure = value ++ " " ++ comparator.text ++ " " ++ boundStyle.text bound) :
    check.Passes location parameter value v ↔ ¬comparator.Holds v bound.value := by
  rw [Passes, statement, h, ofStatement?_compared hvalue hbound]
  exact ⟨fun hall => hall _ rfl, fun hnot comparison heq => by cases heq; exact hnot⟩

theorem passes_above (hvalue : value.toList.all Name.isIdentifierPart = true)
    (hbound : bound.IsRounded) (strict : Bool) :
    (above strict value bound).Passes location parameter value v ↔
      if strict then bound.value < v else bound.value ≤ v := by
  cases strict with
  | true =>
    refine (passes_iff hvalue hbound .le ?_).trans not_le
    simp [above, Comparator.text, String.append_assoc]
  | false =>
    refine (passes_iff hvalue hbound .lt ?_).trans not_lt
    simp [above, Comparator.text, String.append_assoc]

theorem passes_below (hvalue : value.toList.all Name.isIdentifierPart = true)
    (hbound : bound.IsRounded) (strict : Bool) :
    (below strict value bound).Passes location parameter value v ↔
      if strict then v < bound.value else v ≤ bound.value := by
  cases strict with
  | true =>
    refine (passes_iff hvalue hbound .ge ?_).trans not_le
    simp [below, Comparator.text, String.append_assoc]
  | false =>
    refine (passes_iff hvalue hbound .gt ?_).trans not_lt
    simp [below, Comparator.text, String.append_assoc]

theorem passes_multiple (hvalue : value.toList.all Name.isIdentifierPart = true) (divisor : Binary64) :
    (multiple value divisor).Passes location parameter value v := by
  intro comparison h
  rw [statement, ofStatement?_multiple hvalue] at h
  cases h

end Check

theorem Compile.throwMalformed_ok (location name message : String) (s : Progress) :
    ∃ s', throwMalformed location name message s = .ok
      ("throw new Runtime.MalformedError(" ++ Text.quoted location ++ ", " ++ Text.quoted name ++
        ", " ++ message ++ ");", s') := by
  obtain ⟨⟨text, s'⟩, h⟩ : ∃ r, throwMalformed location name message s = .ok r := ⟨_, rfl⟩
  exact ⟨s', h.trans (by rw [throwMalformed_eq location name message s text s' h])⟩

theorem Compiler.failChecks_ok (location : Location) (parameter : String) (checks : List Check)
    (s : Progress) : ∃ s', failChecks location parameter checks s =
      .ok (checks.map fun check => Code.site (check.statement location.name parameter), s') := by
  unfold failChecks
  induction checks generalizing s with
  | nil => exact ⟨s, rfl⟩
  | cons check checks ih =>
    obtain ⟨s₁, hthrow⟩ := Compile.throwMalformed_ok location.name parameter
      (Text.quoted check.message) s
    obtain ⟨s₂, hrest⟩ := ih s₁
    refine ⟨s₂, ?_⟩
    rw [List.mapM_cons, Compile.bind_apply_of_ok (Compile.bind_apply_of_ok hthrow),
      Compile.bind_apply_of_ok hrest]
    rfl

/-- A value gets past the statements that checks are written as if and only if it passes the checks. -/
theorem Compiler.failChecks_pass_iff (location : Location) (parameter value : String)
    (checks : List Check) (s : Progress) : ∃ statements s',
      failChecks location parameter checks s = .ok (statements, s') ∧
        ∀ v : ℚ, (∀ statement ∈ statements, ∀ comparison,
          Comparison.ofStatement? value statement.render.toList = some comparison →
            ¬comparison.Holds v) ↔ ∀ check ∈ checks, check.Passes location.name parameter value v := by
  obtain ⟨s', hchecks⟩ := failChecks_ok location parameter checks s
  refine ⟨_, s', hchecks, fun v => ?_⟩
  simp only [List.forall_mem_map, Code.render_site]
  exact .rfl

/-! ## Bounds -/

namespace Keywords

variable {σ : Type} {k : Keywords σ}

/-- The bounds that a schema sets for numbers. -/
def numberBounds (k : Keywords σ) : List Binary64 :=
  k.minimum.toList ++ (k.exclusiveMinimum.bind (·.bound?)).toList ++ k.maximum.toList ++
    (k.exclusiveMaximum.bind (·.bound?)).toList

/-- The bounds of a schema admit the number, those of both kinds at once: a flag makes the bound beside
it strict, and an exclusive bound is a strict one of its own. -/
structure AdmitsNumber (k : Keywords σ) (v : ℚ) : Prop where
  minimum : ∀ bound ∈ k.minimum,
    if k.exclusiveMinimum = some (.flag true) then bound.value < v else bound.value ≤ v
  exclusiveMinimum : ∀ bound, k.exclusiveMinimum = some (.bound bound) → bound.value < v
  maximum : ∀ bound ∈ k.maximum,
    if k.exclusiveMaximum = some (.flag true) then v < bound.value else v ≤ bound.value
  exclusiveMaximum : ∀ bound, k.exclusiveMaximum = some (.bound bound) → v < bound.value

theorem bind_bound?_eq_some {exclusive : Option ExclusiveBound} {bound : Binary64} :
    exclusive.bind (·.bound?) = some bound ↔ exclusive = some (.bound bound) := by
  rcases exclusive with _ | _ | _ <;> simp [ExclusiveBound.bound?]

/-- All checks of a number pass if and only if the schema admits it, where each of them passes as its
bound and its strictness say. -/
theorem forall_numberChecks_iff {value : String} {v : ℚ} {P : Check → Prop}
    (habove : ∀ bound ∈ k.numberBounds, ∀ strict : Bool, P (Check.above strict value bound) ↔
      if strict then bound.value < v else bound.value ≤ v)
    (hbelow : ∀ bound ∈ k.numberBounds, ∀ strict : Bool, P (Check.below strict value bound) ↔
      if strict then v < bound.value else v ≤ bound.value)
    (hmultiple : ∀ divisor, P (Check.multiple value divisor)) :
    (∀ check ∈ k.numberChecks value, P check) ↔ k.AdmitsNumber v := by
  have hmem (bound : Binary64) : bound ∈ k.numberBounds ↔
      ((k.minimum = some bound ∨ k.exclusiveMinimum = some (.bound bound)) ∨
        k.maximum = some bound) ∨ k.exclusiveMaximum = some (.bound bound) := by
    simp only [numberBounds, List.mem_append, Option.mem_toList, bind_bound?_eq_some]
  have hminimum := forall₂_congr fun bound (h : k.minimum = some bound) =>
    habove bound ((hmem bound).2 (by simp [h])) (k.exclusiveMinimum == some (.flag true))
  have hexclusiveMinimum := forall₂_congr fun bound (h : k.exclusiveMinimum = some (.bound bound)) =>
    habove bound ((hmem bound).2 (by simp [h])) true
  have hmaximum := forall₂_congr fun bound (h : k.maximum = some bound) =>
    hbelow bound ((hmem bound).2 (by simp [h])) (k.exclusiveMaximum == some (.flag true))
  have hexclusiveMaximum := forall₂_congr fun bound (h : k.exclusiveMaximum = some (.bound bound)) =>
    hbelow bound ((hmem bound).2 (by simp [h])) true
  simp only [numberChecks, List.forall_mem_append, Option.mem_toList, Option.map_eq_some_iff,
    bind_bound?_eq_some, forall_exists_index, and_imp, forall_apply_eq_imp_iff₂]
  rw [hminimum, hexclusiveMinimum, hmaximum, hexclusiveMaximum]
  simp only [beq_iff_eq, if_true]
  exact ⟨fun ⟨⟨⟨⟨h₁, h₂⟩, h₃⟩, h₄⟩, _⟩ => ⟨h₁, h₂, h₃, h₄⟩,
    fun ⟨h₁, h₂, h₃, h₄⟩ => ⟨⟨⟨⟨h₁, h₂⟩, h₃⟩, h₄⟩, fun divisor _ => hmultiple divisor⟩⟩

/-- A number passes the checks for a schema if and only if the schema admits it, as far as its bounds
have the form that rounding gives. -/
theorem passes_numberChecks_iff {location parameter value : String} {v : ℚ}
    (hvalue : value.toList.all Name.isIdentifierPart = true)
    (hbounds : ∀ bound ∈ k.numberBounds, bound.IsRounded) :
    (∀ check ∈ k.numberChecks value, check.Passes location parameter value v) ↔ k.AdmitsNumber v :=
  forall_numberChecks_iff (fun bound hbound => Check.passes_above hvalue (hbounds bound hbound))
    (fun bound hbound => Check.passes_below hvalue (hbounds bound hbound))
    (Check.passes_multiple hvalue)

end Keywords

/-- The statements for the bounds of a schema are always there, and no comparison that one of them makes
holds of a number if and only if the schema admits the number. -/
theorem failChecks_admit_iff {σ : Type} {k : Keywords σ} {value : String}
    (hvalue : value.toList.all Name.isIdentifierPart = true)
    (hbounds : ∀ bound ∈ k.numberBounds, bound.IsRounded) (location : Location) (parameter : String)
    (s : Progress) : ∃ statements s',
      Compiler.failChecks location parameter (k.numberChecks value) s = .ok (statements, s') ∧
        ∀ v : ℚ, (∀ statement ∈ statements, ∀ comparison,
          Comparison.ofStatement? value statement.render.toList = some comparison →
            ¬comparison.Holds v) ↔ k.AdmitsNumber v := by
  obtain ⟨statements, s', hchecks, hpass⟩ :=
    Compiler.failChecks_pass_iff location parameter value (k.numberChecks value) s
  exact ⟨statements, s', hchecks,
    fun v => (hpass v).trans (Keywords.passes_numberChecks_iff hvalue hbounds)⟩

/-- A rate is above a half, no more than ten, and a multiple of a quarter. -/
def rate : Keywords Schema where
  type := some .number
  minimum := some ⟨false, 2 ^ 52, -53⟩
  exclusiveMinimum := some (.flag true)
  maximum := some ⟨false, 5 * 2 ^ 50, -49⟩
  exclusiveMaximum := some (.flag false)
  multipleOf := some ⟨false, 2 ^ 52, -54⟩

theorem rate_bounds : ∀ bound ∈ rate.numberBounds, bound.IsRounded := by
  intro bound hbound
  obtain rfl | rfl : bound = ⟨false, 2 ^ 52, -53⟩ ∨ bound = ⟨false, 5 * 2 ^ 50, -49⟩ := by
    simpa [rate, Keywords.numberBounds, ExclusiveBound.bound?] using hbound
  · exact ⟨by decide, .inl le_rfl, by decide, by decide⟩
  · exact ⟨by decide, .inl (by decide), by decide, by decide⟩

/-- The half itself is rejected, and ten is not. -/
theorem failChecks_admit_iff_rate : "value_1".toList.all Name.isIdentifierPart = true ∧
    (∀ bound ∈ rate.numberBounds, bound.IsRounded) ∧
    ∃ statements s', Compiler.failChecks .query "rate" (rate.numberChecks "value_1") {} =
        .ok (statements, s') ∧
      ∀ v : ℚ, (∀ statement ∈ statements, ∀ comparison,
        Comparison.ofStatement? "value_1" statement.render.toList = some comparison →
          ¬comparison.Holds v) ↔ 1 / 2 < v ∧ v ≤ 10 := by
  have hvalue : "value_1".toList.all Name.isIdentifierPart = true := by decide
  obtain ⟨statements, s', hchecks, hadmits⟩ :=
    failChecks_admit_iff hvalue rate_bounds .query "rate" {}
  refine ⟨hvalue, rate_bounds, statements, s', hchecks, fun v => (hadmits v).trans ?_⟩
  have hhalf : Binary64.value ⟨false, 2 ^ 52, -53⟩ = 1 / 2 := by
    norm_num [Binary64.value, Binary64.magnitude]
  have hten : Binary64.value ⟨false, 5 * 2 ^ 50, -49⟩ = 10 := by
    norm_num [Binary64.value, Binary64.magnitude]
  have hstrict : rate.exclusiveMinimum = some (.flag true) := rfl
  have hloose : rate.exclusiveMaximum ≠ some (.flag true) := by decide
  constructor
  · intro h
    have hminimum := h.minimum _ rfl
    have hmaximum := h.maximum _ rfl
    rw [if_pos hstrict, hhalf] at hminimum
    rw [if_neg hloose, hten] at hmaximum
    exact ⟨hminimum, hmaximum⟩
  · rintro ⟨hminimum, hmaximum⟩
    refine ⟨fun bound h => ?_, nofun, fun bound h => ?_, nofun⟩
    · cases h
      rwa [if_pos hstrict, hhalf]
    · cases h
      rwa [if_neg hloose, hten]

end OpenApi

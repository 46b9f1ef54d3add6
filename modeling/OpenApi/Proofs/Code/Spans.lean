import Mathlib.Data.List.Basic
import OpenApi.Code.Field
import OpenApi.Code.Lemmas
import OpenApi.Compiler.TypeExpression

/-!
Where the text of a piece of code comes from. Putting code together loses no origin and adds none but
that of the compiler itself, whatever neighbours are joined on the way.
-/

namespace OpenApi

namespace Code

/-- Some text of the code has the given origin. -/
def HasSpan (code : Code) (origin : Origin) : Prop :=
  ∃ fragment ∈ code.fragments, fragment.origin = origin ∧ fragment.text ≠ ""

variable {origin : Origin}

theorem hasSpan_iff (code : Code) : code.HasSpan origin ↔ ∃ c, (c, origin) ∈ code.chars := by
  simp only [HasSpan, chars, Fragment.chars, List.mem_flatMap, List.mem_map, Prod.mk.injEq]
  constructor
  · rintro ⟨f, hf, horigin, htext⟩
    obtain ⟨c, hc⟩ := List.exists_mem_of_ne_nil f.text.toList (by simpa using htext)
    exact ⟨c, f, hf, c, hc, rfl, horigin⟩
  · rintro ⟨_, f, hf, c, hc, rfl, horigin⟩
    exact ⟨f, hf, horigin, by rintro htext; simp [htext] at hc⟩

@[simp] theorem not_hasSpan_empty : ¬HasSpan empty origin := by simp [HasSpan, empty]

@[simp] theorem hasSpan_append (a b : Code) :
    (a ++ b).HasSpan origin ↔ a.HasSpan origin ∨ b.HasSpan origin := by
  simp only [hasSpan_iff, chars_append, List.mem_append, exists_or]

@[simp] theorem hasSpan_tagged (text : String) (o : Origin) :
    (tagged text o).HasSpan origin ↔ o = origin ∧ text ≠ "" := by
  rw [tagged, extend]
  split <;> simp_all [HasSpan, String.isEmpty_iff]

theorem hasSpan_cat (parts : List Code) :
    (cat parts).HasSpan origin ↔ ∃ part ∈ parts, part.HasSpan origin := by
  simp only [hasSpan_iff, chars_cat, List.mem_flatMap]
  exact ⟨fun ⟨c, part, hpart, hc⟩ => ⟨part, hpart, c, hc⟩,
    fun ⟨part, hpart, c, hc⟩ => ⟨c, part, hpart, hc⟩⟩

/-! ## Formats -/

section

variable {name : String}

@[simp] theorem not_hasSpan_site (text : String) : ¬(site text).HasSpan (.stringFormat name) := by
  rw [site, hasSpan_tagged]
  simp

@[simp] theorem hasSpan_join (separator : String) (parts : List Code) :
    (join separator parts).HasSpan (.stringFormat name) ↔
      ∃ part ∈ parts, part.HasSpan (.stringFormat name) := by
  cases parts with
  | nil => simp [join]
  | cons first rest =>
    simp only [join]
    induction rest generalizing first with
    | nil => simp
    | cons part rest ih =>
      rw [List.foldl_cons, ih]
      simp [or_assoc]

@[simp] theorem hasSpan_parens (code : Code) :
    code.parens.HasSpan (.stringFormat name) ↔ code.HasSpan (.stringFormat name) := by
  simp [parens, hasSpan_cat]

@[simp] theorem hasSpan_braced (code : Code) :
    code.braced.HasSpan (.stringFormat name) ↔ code.HasSpan (.stringFormat name) := by
  simp [braced, hasSpan_cat]

@[simp] theorem hasSpan_combined (operator : String) (types : List Code) :
    (combined operator types).HasSpan (.stringFormat name) ↔
      ∃ type ∈ types, type.HasSpan (.stringFormat name) := by
  unfold combined
  split
  · simp
  · rw [hasSpan_parens, hasSpan_join]

@[simp] theorem hasSpan_declaration (field : Field) :
    field.declaration.HasSpan (.stringFormat name) ↔ field.type.HasSpan (.stringFormat name) := by
  simp [Field.declaration]

@[simp] theorem hasSpan_objectType (fields : List Field) :
    (Field.objectType fields).HasSpan (.stringFormat name) ↔
      ∃ field ∈ fields, field.type.HasSpan (.stringFormat name) := by
  unfold Field.objectType
  split
  · simp
  · rw [hasSpan_braced, hasSpan_join]
    simp only [List.mem_map, exists_exists_and_eq_and, hasSpan_declaration]

@[simp] theorem hasSpan_recordType (fields : List Field) (index : Option Code) (isOpen : Bool) :
    (recordType fields index isOpen).HasSpan (.stringFormat name) ↔
      (∃ field ∈ fields, field.type.HasSpan (.stringFormat name)) ∨
        ∃ type ∈ index, type.HasSpan (.stringFormat name) := by
  unfold recordType
  split
  case h_1 => split <;> simp
  case h_2 => simp
  case h_3 =>
    split
    · simp [indexField, or_and_right, exists_or]
    · simp [indexField, hasSpan_cat]

end

end Code

end OpenApi

import OpenApi.Json.Writer
import OpenApi.Proofs.Code.Sound
import OpenApi.Schema.Check

/-!
Texts that a document decides, as generated code has them. A string literal ends where it should whatever
characters are in it, and so do the literals of numbers and of whole JSON values, which nest as
JSON does.
-/

namespace OpenApi

namespace Lex

variable {r : Rules} {opened : List Bracket}

/-! ## String literals -/

theorem fourHexDigits_plain (n : Nat) : ∀ c ∈ Text.fourHexDigits n, c ≠ '"' ∧ c ≠ '\\' := by
  have hdigit : ∀ d < 16, Char.ofNat (if d < 10 then 0x30 + d else 0x57 + d) ≠ '"' ∧
      Char.ofNat (if d < 10 then 0x30 + d else 0x57 + d) ≠ '\\' := by decide
  have hlt (m : Nat) : m % 16 < 16 := Nat.mod_lt m (by decide)
  intro c hc
  simp only [Text.fourHexDigits, List.mem_cons, List.not_mem_nil, or_false] at hc
  rcases hc with rfl | rfl | rfl | rfl
  all_goals exact hdigit _ (hlt _)

theorem read_quoted_plain {c : Char} (h : c ≠ '"' ∧ c ≠ '\\') :
    readChar r (.inside (.quote '"') opened) c = some (.inside (.quote '"') opened) := by
  dsimp only [readChar, State.inside]
  rw [if_neg h.2, if_neg h.1]

theorem readAll_quoted_plain {cs : List Char} (h : ∀ c ∈ cs, c ≠ '"' ∧ c ≠ '\\') :
    readAll r (.inside (.quote '"') opened) (cs.map .char) = some (.inside (.quote '"') opened) := by
  induction cs with
  | nil => rfl
  | cons c cs ih =>
    obtain ⟨hc, hcs⟩ := List.forall_mem_cons.1 h
    rw [List.map_cons, readAll, read, read_quoted_plain hc, Option.bind_some]
    exact ih hcs

/-- A character goes into a string literal so that it stays inside. -/
theorem readAll_quotedChar (c : Char) :
    readAll r (.inside (.quote '"') opened) ((Text.quotedChar c).map .char) =
      some (.inside (.quote '"') opened) := by
  unfold Text.quotedChar
  split
  · rfl
  split
  · rfl
  split
  · rfl
  split
  · rfl
  split
  · rfl
  split
  · rfl
  split
  · rfl
  split
  · show readAll r (.inside (.quote '"') opened) ((Text.fourHexDigits c.toNat).map .char) = _
    exact readAll_quoted_plain (fourHexDigits_plain c.toNat)
  · rename_i hquote hslash _ _ _ _ _ _
    exact readAll_quoted_plain (List.forall_mem_singleton.2 ⟨hquote, hslash⟩)

theorem complete_quoted (text : String) : Complete r ((Text.quoted text).toList.map .char) := by
  have hinside : ∀ cs : List Char, readAll r (.inside (.quote '"') [])
      ((cs.flatMap Text.quotedChar ++ ['"']).map .char) = some {} := by
    intro cs
    induction cs with
    | nil => rfl
    | cons c cs ih =>
      rw [List.flatMap_cons, List.append_assoc, List.map_append,
        readAll_append_of_eq_some (readAll_quotedChar c), ih]
  rw [Text.quoted, String.toList_ofList]
  exact hinside text.toList

/-! ## Numbers -/

/-- Characters of numbers. -/
def isNumeric (c : Char) : Bool := c.isDigit || c == 'e' || c == '.' || c == '-' || c == '+'

/-- Letters and digits of numbers make up no name of a module. -/
theorem isValue_numeric (hr : (strict true).Refines r) {word : List Char}
    (h : word.all isNumeric = true) : r.isValue word = true := by
  have hnone : ∀ name ∈ aliases, name.all isNumeric = false := by decide
  have hword : word ∉ aliases := fun hmem => by
    rw [hnone word hmem] at h
    cases h
  exact hr.isValue (by simpa [strict, Rules.isValue] using hword)

theorem readAll_numeric (hr : (strict true).Refines r) {cs : List Char} (h : cs.all isNumeric = true)
    {word : List Char} (hword : word.all isNumeric = true) : ∃ word',
    readAll r ⟨.code, opened, word⟩ (cs.map .char) = some ⟨.code, opened, word'⟩ ∧
      word'.all isNumeric = true := by
  induction cs generalizing word with
  | nil => exact ⟨word, rfl, hword⟩
  | cons c cs ih =>
    rw [List.all_cons, Bool.and_eq_true_iff] at h
    have hread : ∃ next, readCode r ⟨.code, opened, word⟩ c = some ⟨.code, opened, next⟩ ∧
        next.all isNumeric = true := by
      unfold readCode
      split
      case h_11 =>
        have hvalue := isValue_numeric hr hword
        rw [Rules.behind_of_isValue hvalue]
        exact ⟨[], if_pos (Bool.and_eq_true_iff.1 hvalue).1, rfl⟩
      case h_12 =>
        split
        · exact ⟨_, rfl, by simp [hword, h.1]⟩
        · exact ⟨[], rfl, rfl⟩
      all_goals exact absurd h.1 (by decide)
    obtain ⟨next, hnext, hnumeric⟩ := hread
    obtain ⟨word', hword', hall⟩ := ih h.2 hnumeric
    exact ⟨word', Option.bind_eq_some_iff.2 ⟨_, hnext, hword'⟩, hall⟩

theorem value_numeric (hr : (strict true).Refines r) {cs : List Char} (h : cs.all isNumeric = true) :
    Value r (cs.map .char) := by
  have hempty : ([] : List Char).all isNumeric = true := rfl
  obtain ⟨word, hread, hword⟩ : ∃ word, readAll r {} (cs.map .char) = some ⟨.code, [], word⟩ ∧
    word.all isNumeric = true := readAll_numeric hr h hempty
  exact ⟨_, hread, ⟨rfl, .inl rfl⟩, isValue_numeric hr hword⟩

end Lex

/-! ## Literals of the compiler -/

namespace Lex

theorem isNumeric_of_isDigit {c : Char} (h : c.isDigit = true) : isNumeric c = true := by
  simp [isNumeric, h]

theorem toDigits_numeric (n : Nat) : (Nat.toDigits 10 n).all isNumeric = true :=
  List.all_eq_true.2 fun _ hc =>
    isNumeric_of_isDigit (Nat.isDigit_of_mem_toDigits (by decide) (by decide) hc)

theorem toString_nat_numeric (n : Nat) : (toString n).toList.all isNumeric = true := by
  rw [Nat.toString_eq_repr, Nat.repr_eq_ofList_toDigits, String.toList_ofList]
  exact toDigits_numeric n

theorem toString_int_numeric (n : Int) : (toString n).toList.all isNumeric = true := by
  rw [Int.toString_eq_repr]
  cases n with
  | ofNat n => exact toString_nat_numeric n
  | negSucc n =>
    have hminus : "-".toList.all isNumeric = true := by decide
    show ("-" ++ (n + 1).repr).toList.all isNumeric = true
    rw [String.toList_append, List.all_append, hminus]
    exact toString_nat_numeric (n + 1)

theorem positionalText_numeric (style : NumberStyle) {digits : List Char}
    (h : digits.all isNumeric = true) (exponent : Int) :
    (style.positionalText digits exponent).all isNumeric = true := by
  have hdigits := List.all_eq_true.1 h
  have hzeros (n : Nat) : (List.replicate n '0').all isNumeric = true :=
    List.all_eq_true.2 fun c hc => by rw [List.eq_of_mem_replicate hc]; rfl
  unfold NumberStyle.positionalText
  dsimp only
  split
  · rw [List.all_append, List.all_append, h, hzeros]
    cases style.pointZero <;> rfl
  split
  · rw [List.all_append, List.all_append,
      List.all_eq_true.2 fun c hc => hdigits c (List.mem_of_mem_take hc),
      List.all_eq_true.2 fun c hc => hdigits c (List.mem_of_mem_drop hc)]
    rfl
  · rw [List.all_append, List.all_append, h, hzeros]
    rfl

theorem scientificText_numeric {digits : List Char} (h : digits.all isNumeric = true)
    (leading : Int) : (NumberStyle.scientificText digits leading).all isNumeric = true := by
  unfold NumberStyle.scientificText
  rw [List.all_append, List.all_append, toDigits_numeric]
  have hsign : ['e', if leading < 0 then '-' else '+'].all isNumeric = true := by
    split <;> rfl
  rw [hsign, Bool.and_true, Bool.and_true]
  match digits, h with
  | [], _ => rfl
  | [d], h => exact h
  | d :: e :: rest, h =>
    simp only [List.all_cons, Bool.and_eq_true_iff] at h ⊢
    exact ⟨h.1, rfl, h.2⟩

theorem numberStyle_numeric (style : NumberStyle) (x : Binary64) :
    (style.text x).toList.all isNumeric = true := by
  unfold NumberStyle.text
  rw [String.toList_ofList, List.all_append, Bool.and_eq_true_iff]
  refine ⟨by split <;> rfl, ?_⟩
  split
  · exact positionalText_numeric style (toDigits_numeric _) _
  · exact scientificText_numeric (toDigits_numeric _) _

end Lex

/-! ## Code -/

namespace Reader

variable {r : Reader}

theorem complete_quoted (text : String) : r.Complete (Code.site (Text.quoted text)) := by
  rw [Complete, glyphs_site]
  exact Lex.complete_quoted text

theorem value_numeric {text : String} (h : text.toList.all Lex.isNumeric = true) :
    r.Value (Code.site text) := by
  rw [Value, glyphs_site]
  exact Lex.value_numeric r.lenient h

/-! ## JSON -/

mutual

/-- The literal of a JSON value is sound. -/
theorem sound_text : ∀ value : Json, r.Sound (Code.site value.text)
  | .null => sound_given (by decide)
  | .bool true => sound_given (by decide)
  | .bool false => sound_given (by decide)
  | .number (.integer value) => (value_numeric (Lex.toString_int_numeric value)).sound
  | .number (.binary value) => (value_numeric (Lex.numberStyle_numeric _ value)).sound
  | .string value => (complete_quoted value).sound
  | .array items => Fits.site ["[", Json.itemsText items, "]"]
    (.text (.sound (sound_itemsText items) (.text .nil))) (by decide)
    (by simp [Json.text, String.append_assoc])
  | .object members => Fits.site ["\x7b", Json.membersText members, "\x7d"]
    (.text (.sound (sound_membersText members) (.text .nil))) (by decide)
    (by simp [Json.text, String.append_assoc])

theorem sound_itemsText : ∀ items : List Json, r.Sound (Code.site (Json.itemsText items))
  | [] => sound_given (by decide)
  | [item] => sound_text item
  | item :: next :: rest => Fits.site [item.text, ",", Json.itemsText (next :: rest)]
    (.sound (sound_text item) (.text (.sound (sound_itemsText (next :: rest)) .nil))) (by decide)
    (by simp [Json.itemsText, String.append_assoc])

theorem sound_membersText :
    ∀ members : List (String × Json), r.Sound (Code.site (Json.membersText members))
  | [] => sound_given (by decide)
  | [(name, value)] => Fits.site [Text.quoted name, ":", value.text]
    (.complete (complete_quoted name) (.text (.sound (sound_text value) .nil))) (by decide)
    (by simp [Json.membersText, String.append_assoc])
  | (name, value) :: next :: rest =>
    Fits.site [Text.quoted name, ":", value.text, ",", Json.membersText (next :: rest)]
      (.complete (complete_quoted name) (.text (.sound (sound_text value)
        (.text (.sound (sound_membersText (next :: rest)) .nil))))) (by decide)
      (by simp [Json.membersText, String.append_assoc])

end

end Reader

end OpenApi

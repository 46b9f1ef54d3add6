import OpenApi.Compiler.Packing
import OpenApi.Proofs.Code.Names

/-!
The values that conversions speak of, local names and their members for the most part, and the code that
is put together from them. Each way of putting code together keeps it sound.
-/

namespace OpenApi

namespace Lex

variable {r : Rules}

/-- An identifier is read as one word. -/
theorem readAll_identifier {cs : List Char} (h : cs.all Name.isIdentifierPart = true)
    (opened : List Bracket) (word : List Char) :
    readAll r ⟨.code, opened, word⟩ (cs.map .char) = some ⟨.code, opened, word ++ cs⟩ := by
  induction cs generalizing word with
  | nil => rw [List.append_nil]; rfl
  | cons c cs ih =>
    rw [List.all_cons, Bool.and_eq_true_iff] at h
    have hread : readCode r ⟨.code, opened, word⟩ c = some ⟨.code, opened, word ++ [c]⟩ := by
      unfold readCode
      split
      case h_12 => exact if_pos h.1
      all_goals exact absurd h.1 (by decide)
    rw [List.map_cons, readAll, read, readChar, hread, Option.bind_some, ih h.2, List.append_assoc]
    rfl

/-- No module has a name with an underscore. -/
theorem strict_isValue_of_underscore {word : List Char} (h : '_' ∈ word) :
    (strict true).isValue word = true := by
  have hne : ∀ name ∈ aliases, word ≠ name := by
    rintro name hname rfl
    exact absurd h ((by decide : ∀ name ∈ aliases, '_' ∉ name) word hname)
  have hnot : word ∉ aliases := fun hmem => hne word hmem rfl
  simpa [strict, Rules.isValue] using hnot

end Lex

namespace Reader

variable {r : Reader} {code value : Code} {parts : List Code}

/-! ## Operands -/

theorem shown_site (text : String) : r.Shown (Code.site text) := by
  rw [Shown, glyphs_site, Code.render_site]

theorem shown_cat (h : ∀ part ∈ parts, r.Shown part) : r.Shown (Code.cat parts) := by
  rw [Shown, glyphs_cat, Code.render_cat]
  induction parts with
  | nil => rfl
  | cons part parts ih =>
    obtain ⟨hpart, hparts⟩ := List.forall_mem_cons.1 h
    rw [List.map_cons, List.flatten_cons, List.map_cons, String.join_cons, String.toList_append,
      List.map_append, ih hparts, hpart]

/-- What is shown may become part of a text of the compiler. -/
theorem Shown.glyphs_render (h : r.Shown code) : r.glyphs (Code.site code.render) = r.glyphs code := by
  rw [glyphs_site, h]

theorem Operand.text {text : String} (h : r.Value (Code.site text)) : r.Operand (Code.site text) :=
  ⟨h, shown_site text⟩

/-- Text that is given. -/
theorem operand_given {text : List Char} (h : Lex.Piece.closeValue [.text text] = true) :
    r.Operand (Code.site (String.ofList text)) := .text (value_given h)

/-- A local name. -/
theorem operand_local {hint : List Char} (h : hint.all Name.isIdentifierPart = true) (n : Nat) :
    r.Operand (Code.site (String.ofList hint ++ "_" ++ toString n)) := by
  have hdigits : (toString n).toList.all Name.isIdentifierPart = true := by
    rw [Nat.toString_eq_repr, Nat.repr_eq_ofList_toDigits, String.toList_ofList]
    refine List.all_eq_true.2 fun c hc => ?_
    have hdigit : c.isDigit = true := Nat.isDigit_of_mem_toDigits (by decide) (by decide) hc
    simp [Name.isIdentifierPart, Char.isAlphanum, hdigit]
  have hall : (hint ++ '_' :: (toString n).toList).all Name.isIdentifierPart = true := by
    rw [List.all_append, h, List.all_cons, hdigits]
    rfl
  refine .text ⟨⟨.code, [], hint ++ '_' :: (toString n).toList⟩, ?_, ⟨rfl, .inl rfl⟩, ?_⟩
  · rw [glyphs_site]
    simpa using Lex.readAll_identifier hall [] []
  · exact r.lenient.isValue (Lex.strict_isValue_of_underscore (by simp))

/-- A word of the vocabulary. -/
theorem callee_word {word : List Char} (h : word ∈ Lex.vocabulary) :
    r.Callee (Code.site (String.ofList word)) := by
  have hreads := Lex.readAll_identifier (r := r.toRules) (Lex.vocabulary_identifierPart word h) [] []
  refine ⟨⟨.code, [], word⟩, ?_, ⟨rfl, .inl rfl⟩, r.lenient.call _ (Lex.strict_mayCall_of_mem h)⟩
  rwa [glyphs_site, String.toList_ofList]

/-- The word that a name ends in may be called. -/
def MayCall (r : Reader) (name : String) : Prop := r.mayCall (Lex.endWord [] name.toList) = true

theorem MayCall.callee {name : String} (h : r.MayCall name)
    (hname : name.toList.all Lex.isOrdinary = true) : r.Callee (Code.site name) := by
  refine ⟨⟨.code, [], Lex.endWord [] name.toList⟩, ?_, ⟨rfl, .inl rfl⟩, h⟩
  rw [glyphs_site]
  exact Lex.readAll_ordinary hname [] []

theorem Operand.member (h : r.Operand value) (name : String) : r.Operand (value.member name) where
  value := by
    have hfits : r.Fits _ [value, "[", quoted name, "]"] :=
      .value h.value (.text (.complete (complete_quoted name) (.text .nil)))
    exact (hfits.catValue (by decide)).congr (by simp [Code.member, Code.brackets])
  shown := by
    refine shown_cat (List.forall_mem_cons.2 ⟨h.shown, List.forall_mem_singleton.2 ?_⟩)
    exact shown_cat (by simp [shown_site, quoted])

theorem Operand.parens (h : r.Operand value) : r.Operand value.parens where
  value := .parens h.sound
  shown := shown_cat (by simp [shown_site, h.shown])

theorem Operand.parenthesized (h : r.Operand value) : r.Operand value.parenthesized := by
  unfold Code.parenthesized
  split
  · exact h
  · exact h.parens

theorem Value.parenthesized (h : r.Value value) : r.Value value.parenthesized := by
  unfold Code.parenthesized
  split
  · exact h
  · exact .parens h.sound

theorem Sound.parenthesized (h : r.Sound value) : r.Sound value.parenthesized := by
  unfold Code.parenthesized
  split
  · exact h
  · exact (Value.parens h).sound

end Reader

end OpenApi

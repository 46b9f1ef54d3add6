import OpenApi.Compiler.Conversion
import OpenApi.Proofs.Format.Scanning

/-!
Templates that change nothing. A template gives back every value exactly if its body is its parameter
(`givesBack_iff`). Whether it does is tried out on one value, with the text `value`: a template without
holes whose body is that text passes as well, and no other one does (`isIdentity_iff`).
-/

namespace OpenApi.Template

/-- The template gives back every simple expression as it is. -/
def GivesBack (t : Template) : Prop :=
  ∀ value origin, Code.isSimple value.render = true → (t.apply value origin).render = value.render

/-! ## Filled pieces -/

section Filling

variable {value parameter : String} {pieces : List Piece}

/-- Pieces in which a value leaves nothing to be seen hold no hole, and no text. -/
theorem fill_eq_empty (hvalue : value ≠ "") (h : fill value pieces = "") (other : String) :
    fill other pieces = "" := by
  induction pieces with
  | nil => rfl
  | cons piece pieces ih =>
    rw [fill_cons, String.append_eq_empty_iff] at h
    cases piece with
    | hole => exact absurd h.1 hvalue
    | text body => rw [fill_cons, ih h.2, String.append_empty]; exact h.1

theorem fill_of_notMem (h : .hole ∉ pieces) (value other : String) :
    fill value pieces = fill other pieces := by
  induction pieces with
  | nil => rfl
  | cons piece pieces ih =>
    obtain ⟨hpiece, hpieces⟩ : .hole ≠ piece ∧ .hole ∉ pieces := by simpa using h
    rw [fill_cons, fill_cons, ih hpieces]
    cases piece with
    | hole => exact absurd rfl hpiece
    | text body => rfl

/-- Pieces that a value fills just as it is are filled so by every value, or hold no hole. -/
theorem fill_eq_self (hvalue : value ≠ "") (h : fill value pieces = value) :
    (∀ other, fill other pieces = other) ∨ .hole ∉ pieces := by
  by_cases hhole : .hole ∈ pieces
  case neg => exact .inr hhole
  case pos =>
    obtain ⟨before, after, rfl⟩ := List.append_of_mem hhole
    rw [fill_append, fill_cons, Piece.filled] at h
    have hlength := congrArg String.length h
    simp only [String.length_append] at hlength
    have hbefore : fill value before = "" := String.length_eq_zero_iff.1 (by omega)
    have hafter : fill value after = "" := String.length_eq_zero_iff.1 (by omega)
    refine .inl fun other => ?_
    rw [fill_append, fill_cons, fill_eq_empty hvalue hbefore, fill_eq_empty hvalue hafter,
      Piece.filled, String.empty_append, String.append_empty]

end Filling

/-! ## Bodies of one word -/

/-- A body that is a word is all hole, or has none. -/
theorem split_identifier {parameter : List Char} {name : String} (h : isIdentifier name = true) :
    split parameter {} name.toList = if name.toList = parameter then [.hole] else [.text name] := by
  unfold isIdentifier at h
  split at h
  case h_1 => cases h
  case h_2 c rest heq =>
    obtain ⟨hstart, hrest⟩ := (Bool.and_eq_true _ _).mp h
    have hspan : (rest ++ []).takeWhile Name.isIdentifierPart = rest ∧
        (rest ++ []).dropWhile Name.isIdentifierPart = [] :=
      Text.span_append (List.all_eq_true.1 hrest) (by simp)
    rw [List.append_nil] at hspan
    have hend (s : Scan) : split parameter s [] = [] := by rw [split.eq_def]
    rw [heq, split_word hstart, hspan.1, hspan.2, hend]
    by_cases hword : c :: rest = parameter
    case pos => rw [if_pos hword, if_pos ⟨hword, (Option.some_ne_none '.').symm⟩]
    case neg =>
      have hname : String.ofList (c :: rest) = name := by rw [← heq, String.ofList_toList]
      rw [if_neg hword, if_neg fun h => hword h.1, ← hname]
      rfl

section Templates

variable {parameter body : String} {t : Template}

theorem render_apply_of_isSimple (t : Template) {value : Code} (h : Code.isSimple value.render = true)
    (origin : Origin) : (t.apply value origin).render = fill value.render t.pieces := by
  rw [render_apply, render_parenthesized, if_pos h]

theorem isIdentity_iff_fill (t : Template) : t.isIdentity = true ↔ fill "value" t.pieces = "value" := by
  have hsimple : Code.isSimple (Code.site "value").render = true := by decide +kernel
  rw [isIdentity, beq_iff_eq, render_apply_of_isSimple t hsimple, Code.render_site]

/-- The pieces of a body that is one word but for its outer blanks. -/
theorem pieces_of_trim {name : String} (hname : isIdentifier name = true) (h : Text.trim body = name) :
    (ofBody parameter body).pieces = if name = parameter then [.hole] else [.text name] := by
  have hchars : Text.trimChars body.toList = name.toList := by
    rw [← h, Text.trim, String.toList_ofList]
  rw [ofBody, hchars, split_identifier hname]
  simp only [String.toList_inj]

/-- A body that is the parameter is filled by every value just as it is. -/
theorem fill_of_trim (hparameter : isIdentifier parameter = true) (h : Text.trim body = parameter)
    (value : String) : fill value (ofBody parameter body).pieces = value := by
  rw [pieces_of_trim hparameter h, if_pos rfl, fill_cons, fill_nil, String.append_empty, Piece.filled]

theorem givesBack_iff (h : new parameter body = .ok t) : t.GivesBack ↔ Text.trim body = parameter := by
  obtain ⟨hparameter, rfl⟩ := new_eq_ok h
  constructor
  case mp =>
    intro hback
    have hsimple : Code.isSimple (Code.site parameter).render = true := by
      rw [Code.render_site]
      exact isSimple_of_isIdentifier hparameter
    have hrender := hback (.site parameter) .site hsimple
    rwa [render_apply_of_isSimple _ hsimple, Code.render_site, fill_ofBody] at hrender
  case mpr =>
    intro hbody value origin hsimple
    rw [render_apply_of_isSimple _ hsimple, fill_of_trim hparameter hbody]

/-- The one value that is tried out does not see what the template does to others if its own text is the
whole body. -/
theorem isIdentity_iff (h : new parameter body = .ok t) :
    t.isIdentity = true ↔ t.GivesBack ∨ Text.trim body = "value" := by
  rw [isIdentity_iff_fill, givesBack_iff h]
  obtain ⟨hparameter, rfl⟩ := new_eq_ok h
  constructor
  case mp =>
    intro hfill
    rcases fill_eq_self (by decide) hfill with hall | hnone
    case inl => exact .inl ((fill_ofBody parameter body).symm.trans (hall parameter))
    case inr =>
      rw [← fill_ofBody parameter body, fill_of_notMem hnone parameter "value"]
      exact .inr hfill
  case mpr =>
    rintro (hbody | hbody)
    case inl => exact fill_of_trim hparameter hbody "value"
    case inr =>
      rw [pieces_of_trim (by decide +kernel) hbody]
      split
      · rfl
      · rfl

end Templates

/-- A conversion is left out only where the template is found to be an identity. -/
theorem isIdentity_of_skipped {format : Format} {d : Direction} {value : Code} {s s' : Progress}
    (h : Compiler.convertFormat d format value s = .ok (none, s')) :
    (format.template d).isIdentity = true := by
  refine Classical.byContradiction fun hchanges => ?_
  rw [Compiler.convertFormat, if_neg hchanges] at h
  cases h

/-- Whether a template is an identity. It is found to be one exactly if it gives back every simple
expression, or its body is the text that is tried out; so the answer is right unless that text is the body,
and not the parameter as well. The conversion that a format leaves out then would have changed no value. -/
theorem new_isIdentity {parameter body : String} {t : Template} (h : new parameter body = .ok t) :
    (t.GivesBack ↔ Text.trim body = parameter) ∧
    (t.isIdentity = true ↔ t.GivesBack ∨ Text.trim body = "value") ∧
    ((Text.trim body = "value" → parameter = "value") →
      (t.isIdentity = true ↔ t.GivesBack) ∧
      ∀ (format : Format) (d : Direction) (value : Code) (s s' : Progress), format.template d = t →
        Compiler.convertFormat d format value s = .ok (none, s') →
        (format.convertCode d value).render = value.parenthesized.render) := by
  refine ⟨givesBack_iff h, isIdentity_iff h, fun hbody => ?_⟩
  have hiff : t.isIdentity = true ↔ t.GivesBack := by
    rw [isIdentity_iff h, givesBack_iff h]
    exact or_iff_left_of_imp fun hvalue => hvalue.trans (hbody hvalue).symm
  refine ⟨hiff, fun format d value s s' hformat hskipped => ?_⟩
  subst hformat
  have hback := (givesBack_iff h).1 (hiff.1 (isIdentity_of_skipped hskipped))
  obtain ⟨hparameter, ht⟩ := new_eq_ok h
  rw [Format.convertCode, render_apply, ht, fill_of_trim hparameter hback]

/-- A template whose parameter and body are the text that is tried out. -/
def unchanged : Template := ⟨"value", [.hole]⟩

def slug : Format := { name := "slug", type := "string", parse := unchanged, serialize := unchanged }

theorem new_isIdentity_slug : new "value" " value" = .ok unchanged ∧ unchanged.isIdentity = true ∧
    unchanged.GivesBack ∧ Compiler.convertFormat .parse slug "a ?? b" {} = .ok (none, {}) ∧
    (slug.convertCode .parse "a ?? b").render = (Code.parenthesized "a ?? b").render := by
  have h : new "value" " value" = .ok unchanged := by with_unfolding_all rfl
  have hskipped : Compiler.convertFormat .parse slug "a ?? b" {} = .ok (none, {}) := by
    with_unfolding_all rfl
  obtain ⟨hback, -, hskip⟩ := new_isIdentity h
  have hgivesBack := hback.2 (by decide +kernel)
  obtain ⟨hiff, hsame⟩ := hskip fun _ => rfl
  exact ⟨h, hiff.2 hgivesBack, hgivesBack, hskipped, hsame slug .parse _ _ _ rfl hskipped⟩

/-- A template that is the text which is tried out, whatever it is applied to, passes for an identity, and
the conversion is left out that would change every other value. -/
theorem constant_isIdentity : ∃ t, new "s" "value" = .ok t ∧ t.isIdentity = true ∧ ¬t.GivesBack ∧
    Compiler.convertFormat .parse { slug with parse := t } "x" {} = .ok (none, {}) ∧
    (t.apply "x" .site).render = "value" := by
  have happly : ((⟨"s", [.text "value"]⟩ : Template).apply "x" .site).render = "value" := by
    decide +kernel
  refine ⟨⟨"s", [.text "value"]⟩, by with_unfolding_all rfl, by decide +kernel, fun hback => ?_,
    by with_unfolding_all rfl, happly⟩
  have hrender := hback "x" .site (by decide +kernel)
  rw [happly] at hrender
  exact absurd hrender (by decide +kernel)

end OpenApi.Template

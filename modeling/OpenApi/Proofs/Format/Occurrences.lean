import OpenApi.Code.Lemmas
import OpenApi.Format.Template

/-!
The holes of a template are occurrences of its parameter. Whatever a body is, also one whose literals and
braces do not match, splitting it takes every character once and in order, so the body comes back when
each hole is filled with the parameter (`fill_split`); an occurrence is a whole word at its end
(`split_holesEnd`); and applying the template puts the value where the occurrences are, and looks for
none in it (`new_fill`).
-/

namespace OpenApi.Template

/-- What a piece is in the text in which `value` stands for the parameter. -/
def Piece.filled (value : String) : Piece → String
  | .text body => body
  | .hole => value

/-- The text of pieces in which `value` stands for the parameter. -/
def fill (value : String) (pieces : List Piece) : String :=
  String.join (pieces.map (Piece.filled value))

/-- No identifier that ends where the text begins would go on in it. -/
def EndsWord (text : String) : Prop := ∀ c ∈ text.toList.head?, Name.isIdentifierPart c = false

/-- Where the parameter stands for a hole, it is a whole word at its end. -/
def HolesEnd (parameter : String) (pieces : List Piece) : Prop :=
  ∀ before after, pieces = before ++ .hole :: after → EndsWord (fill parameter after)

section Filling

variable {value parameter : String} {pieces : List Piece}

@[simp] theorem fill_nil : fill value [] = "" := rfl

@[simp] theorem fill_cons (piece : Piece) :
    fill value (piece :: pieces) = piece.filled value ++ fill value pieces := by
  simp [fill]

@[simp] theorem fill_append (before after : List Piece) :
    fill value (before ++ after) = fill value before ++ fill value after := by
  simp [fill]

@[simp] theorem toList_fill_prepend (text : List Char) :
    (fill value (prepend text pieces)).toList = text ++ (fill value pieces).toList := by
  unfold prepend
  split
  · simp [Piece.filled]
  · split
    case isTrue hempty => simp [List.isEmpty_iff.1 hempty]
    case isFalse => simp [Piece.filled]

theorem holesEnd_nil : HolesEnd parameter [] := by
  rintro (_ | _) after h <;> cases h

theorem HolesEnd.text {body : String} (h : HolesEnd parameter pieces) :
    HolesEnd parameter (.text body :: pieces) := by
  rintro (_ | ⟨piece, before⟩) after heq
  · cases heq
  · exact h before after (List.cons.inj heq).2

theorem HolesEnd.hole (h : HolesEnd parameter pieces) (hends : EndsWord (fill parameter pieces)) :
    HolesEnd parameter (.hole :: pieces) := by
  rintro (_ | ⟨piece, before⟩) after heq
  · obtain ⟨-, rfl⟩ := List.cons.inj heq
    exact hends
  · exact h before after (List.cons.inj heq).2

theorem HolesEnd.of_text {body : String} (h : HolesEnd parameter (.text body :: pieces)) :
    HolesEnd parameter pieces := by
  rintro before after rfl
  exact h (.text body :: before) after rfl

theorem HolesEnd.prepend (h : HolesEnd parameter pieces) (text : List Char) :
    HolesEnd parameter (prepend text pieces) := by
  unfold Template.prepend
  split
  · exact h.of_text.text
  · split
    · exact h
    · exact h.text

end Filling

/-! ## Splitting -/

section Splitting

variable {parameter : List Char}

/-- From whatever state a body is split, its pieces are all of it. -/
theorem fill_split (s : Scan) (body : List Char) :
    (fill (String.ofList parameter) (split parameter s body)).toList = body := by
  have whole (p : Char → Bool) (c : Char) (rest : List Char) :
      c :: rest.takeWhile p ++ rest.dropWhile p = c :: rest :=
    congrArg (c :: ·) List.takeWhile_append_dropWhile
  fun_induction split parameter s body with
  | case1 => rfl
  -- a number
  | case16 s c rest _ _ _ _ _ _ _ digits ih =>
    rw [toList_fill_prepend, ih]
    exact whole isNumberPart c rest
  -- the parameter, and another identifier
  | case17 s c rest _ _ _ _ _ _ _ _ word after hword ih =>
    rw [fill_cons, String.toList_append, ih, Piece.filled, String.toList_ofList, ← hword.1]
    exact whole Name.isIdentifierPart c rest
  | case18 s c rest _ _ _ _ _ _ _ _ word after _ ih =>
    rw [toList_fill_prepend, ih]
    exact whole Name.isIdentifierPart c rest
  | _ => simp_all

theorem split_holesEnd (s : Scan) (body : List Char) :
    HolesEnd (String.ofList parameter) (split parameter s body) := by
  fun_induction split parameter s body with
  | case1 => exact holesEnd_nil
  | case17 s c rest _ _ _ _ _ _ _ _ word after _ ih =>
    -- the word was taken as far as it goes
    refine ih.hole fun d hd => ?_
    rw [fill_split] at hd
    simpa [Option.mem_def.1 hd] using List.head?_dropWhile_not Name.isIdentifierPart rest
  -- in all other cases there is text in front
  | _ =>
    first
    | exact holesEnd_nil.prepend _
    | exact HolesEnd.prepend ‹HolesEnd _ _› _

end Splitting

/-! ## Applying -/

theorem isIdentifierPart_of_isIdentifierStart {c : Char} (h : Name.isIdentifierStart c = true) :
    Name.isIdentifierPart c = true := by
  simp only [Name.isIdentifierStart, Bool.or_eq_true] at h
  rcases h with (halpha | hother) | hother <;> simp [Name.isIdentifierPart, Char.isAlphanum, *]

theorem isSimple_of_isIdentifier {name : String} (h : isIdentifier name = true) :
    Code.isSimple name = true := by
  unfold isIdentifier at h
  split at h
  case h_1 => cases h
  case h_2 c rest heq =>
    obtain ⟨hstart, hrest⟩ := (Bool.and_eq_true _ _).mp h
    have hpart : ∀ d ∈ c :: rest, Name.isIdentifierPart d = true :=
      List.forall_mem_cons.2 ⟨isIdentifierPart_of_isIdentifierStart hstart, List.all_eq_true.1 hrest⟩
    have hall : (c :: rest).all Code.isSimpleChar = true :=
      List.all_eq_true.2 fun d hd => by simp [Code.isSimpleChar, hpart d hd]
    rw [Code.isSimple, heq, hall]
    rfl

theorem render_parenthesized (value : Code) :
    value.parenthesized.render =
      if Code.isSimple value.render then value.render else "(" ++ value.render ++ ")" := by
  unfold Code.parenthesized
  split
  · rfl
  · exact Code.render_parens value .site

theorem render_apply (t : Template) (value : Code) (origin : Origin) :
    (t.apply value origin).render = fill value.parenthesized.render t.pieces := by
  have hpiece (piece : Piece) :
      (piece.code value origin).render = piece.filled value.parenthesized.render := by
    cases piece <;> simp [Piece.code, Piece.filled]
  rw [apply, Code.render_cat, List.map_map, fill]
  congr 2
  exact funext hpiece

theorem new_eq_ok {parameter body : String} {t : Template} (h : new parameter body = .ok t) :
    isIdentifier parameter = true ∧ t = ofBody parameter body := by
  unfold new at h
  split at h
  case isTrue => cases h
  case isFalse hparameter =>
    split at h
    · cases h
    · cases h
      exact ⟨by simpa using hparameter, rfl⟩

/-- Filled with the parameter, the pieces of a body are the body without its outer blanks. -/
theorem fill_ofBody (parameter body : String) :
    fill parameter (ofBody parameter body).pieces = Text.trim body := by
  have hsplit := @fill_split parameter.toList {} (Text.trimChars body.toList)
  rw [String.ofList_toList] at hsplit
  rw [Text.trim, ← hsplit, String.ofList_toList, ofBody]

/-- Filled with the parameter, the template is the body without its outer blanks. Each hole is one
occurrence of the parameter in the body, and no identifier goes on behind it. Applied to a value, the
template has the value for each of these occurrences, in parentheses unless it is a simple expression. -/
theorem new_fill {parameter body : String} {t : Template} (h : new parameter body = .ok t) :
    (∀ origin, (t.apply parameter origin).render = Text.trim body) ∧
    (∀ before after, t.pieces = before ++ .hole :: after →
      Text.trim body = fill parameter before ++ parameter ++ fill parameter after ∧
        EndsWord (fill parameter after)) ∧
    ∀ value origin, (t.apply value origin).render =
      fill (if Code.isSimple value.render then value.render else "(" ++ value.render ++ ")")
        t.pieces := by
  obtain ⟨hparameter, rfl⟩ := new_eq_ok h
  have hbody := fill_ofBody parameter body
  have hends : HolesEnd parameter (ofBody parameter body).pieces := by
    have hsplit := @split_holesEnd parameter.toList {} (Text.trimChars body.toList)
    rwa [String.ofList_toList] at hsplit
  refine ⟨fun origin => ?_, fun before after hhole => ⟨?_, hends before after hhole⟩,
    fun value origin => ?_⟩
  · have hsimple := isSimple_of_isIdentifier hparameter
    rw [render_apply, render_parenthesized, Code.render_site, if_pos hsimple, hbody]
  · rw [← hbody, hhole, fill_append, fill_cons, Piece.filled, String.append_assoc]
  · rw [render_apply, render_parenthesized]

/-- A body in which the parameter stands in a hole inside of another one, and in code; what stands in
literals, in a number, after a dot and in the string that never ends is no occurrence. -/
def nestedBody : String := " `$\x7b`s$\x7bs\x7d` + 1s\x7ds` + x.s + s + \"s "

def nested : Template where
  parameter := "s"
  pieces := [.text "`$\x7b`s$\x7b", .hole, .text "\x7d` + 1s\x7ds` + x.s + ", .hole, .text " + \"s"]

/-- Both occurrences are replaced. -/
theorem new_fill_nested : new "s" nestedBody = .ok nested ∧
    (nested.apply "s" .site).render = Text.trim nestedBody ∧
    Text.trim nestedBody = "`$\x7b`s$\x7b" ++ "s" ++ "\x7d` + 1s\x7ds` + x.s + s + \"s" ∧
    (nested.apply "a ?? b" .site).render =
      "`$\x7b`s$\x7b(a ?? b)\x7d` + 1s\x7ds` + x.s + (a ?? b) + \"s" := by
  have h : new "s" nestedBody = .ok nested := by with_unfolding_all rfl
  obtain ⟨hparameter, hholes, hvalue⟩ := new_fill h
  refine ⟨h, hparameter .site, ?_, ?_⟩
  · exact (hholes [.text "`$\x7b`s$\x7b"] _ rfl).1
  · rw [hvalue]
    decide +kernel

end OpenApi.Template

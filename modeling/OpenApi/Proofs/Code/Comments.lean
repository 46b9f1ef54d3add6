import OpenApi.Proofs.Code.Templates

/-!
Where the comment on an operation ends. A reader of comments that goes through the whole of a text and
is still in the comment met nothing that ends one (`Lex.not_endsComment_of_inside`); it goes so through
all lines of the comment on an operation. Whatever the summary and the description say, the comment
therefore ends once, where its last line says so, and no code that follows is cut into.
-/

namespace OpenApi

/-- What ends a comment stands in `text` after `front` and before `back`. -/
def Text.EndsComment (text front back : List Char) : Prop := text = front ++ '*' :: '/' :: back

namespace Lex

variable {r : Rules} {s s' : State}

/-- Nothing is left to read inside of something once the reader is at top level. -/
theorem Inside.eq_nil_of_isTop {gs : List Glyph} (h : Inside r s gs s') (hs : s.isTop = true) :
    gs = [] := by
  cases h with
  | nil => rfl
  | cons htop _ _ => rw [hs] at htop; cases htop

/-- A comment that goes on after a text is not ended by anything in it. -/
theorem not_endsComment_of_inside {text : List Char} (h : Inside r s (text.map .char) s')
    (hs : s.InComment []) (hs' : s'.InComment []) (front back : List Char) :
    ¬ Text.EndsComment text front back := by
  rintro rfl
  induction front generalizing s with
  | nil =>
    -- The star is read in the comment and the slash ends it, so the reader has to stop there.
    obtain _ | ⟨-, hstar, h⟩ := h
    rw [read_comment hs fun _ => by decide] at hstar
    cases hstar
    obtain _ | ⟨-, hslash, h⟩ := h
    have hcode : read r (.inside .star []) (.char '/') = some (.code []) := rfl
    rw [if_pos rfl, hcode] at hslash
    cases hslash
    rw [h.eq_nil_of_isTop rfl] at h
    cases h
    rcases hs' with hs' | hs' <;> simp [State.code, State.inside] at hs'
  | cons c front ih =>
    obtain _ | ⟨-, hc, h⟩ := h
    by_cases hend : s = .inside .star [] ∧ c = '/'
    case pos =>
      obtain ⟨rfl, rfl⟩ := hend
      cases hc
      exact absurd (h.eq_nil_of_isTop rfl) (by simp)
    case neg =>
      rw [read_comment hs fun hstar hslash => hend ⟨hstar, hslash⟩] at hc
      cases hc
      refine ih ?_ h
      split
      · exact .inr rfl
      · exact .inl rfl

end Lex

namespace Text

variable {text rest front back : List Char}

/-- What ends a comment ends it where it stands first; the next place is one of the text after it. -/
theorem EndsComment.first (hfirst : ∀ front back, ¬ EndsComment (text ++ ['*']) front back)
    (h : EndsComment (text ++ '*' :: '/' :: rest) front back) :
    front = text ∧ back = rest ∨
      ∃ later, front = text ++ '*' :: '/' :: later ∧ EndsComment rest later back := by
  obtain ⟨more, hfront, hmore⟩ | ⟨more, htext, hmore⟩ := List.append_eq_append_iff.1 h
  · match more with
    | [] => exact .inl ⟨by simpa using hfront, by simpa using hmore.symm⟩
    | [c] => simp at hmore
    | c :: d :: later =>
      simp only [List.cons_append, List.cons.injEq] at hmore
      obtain ⟨rfl, rfl, hrest⟩ := hmore
      exact .inr ⟨later, hfront, hrest⟩
  · match more with
    | [] => exact .inl ⟨by simpa using htext.symm, by simpa using hmore⟩
    | [c] => simp at hmore
    | c :: d :: later =>
      simp only [List.cons_append, List.cons.injEq] at hmore
      obtain ⟨rfl, rfl, -⟩ := hmore
      refine absurd ?_ (hfirst front (later ++ ['*']))
      rw [EndsComment, htext]
      simp

end Text

namespace Operation

/-- A comment on an operation is read as a comment up to the slash that ends it. -/
theorem docComment_inComment (o : Operation) : o.docComment = "" ∨ ∃ lines : List Char,
    o.docComment.toList = "/**\n".toList ++ lines ++ "*/\n".toList ∧
      ∀ front back, ¬ Text.EndsComment ("/**\n".toList ++ lines ++ ['*']) front back := by
  refine (Lex.docComment_inside o).imp id ?_
  rintro ⟨lines, heq, hlines⟩
  refine ⟨lines.toList ++ [' '], by rw [heq]; simp, ?_⟩
  have hcomment : (Lex.State.inside .comment []).InComment [] := .inl rfl
  have hstar : (Lex.State.inside .star []).InComment [] := .inr rfl
  have hopening : Lex.Inside Lex.everything (.inside .comment []) ("/**\n".toList.map .char)
      (.inside .comment []) :=
    .cons hcomment.not_isTop rfl <| .cons hcomment.not_isTop rfl <|
      .cons hstar.not_isTop rfl <| .cons hstar.not_isTop rfl .nil
  have hending : Lex.Inside Lex.everything (.inside .comment []) ([' ', '*'].map .char)
      (.inside .star []) :=
    .cons hcomment.not_isTop rfl <| .cons hcomment.not_isTop rfl .nil
  have hinside := (hopening.append (hlines _)).append hending
  rw [← List.map_append, ← List.map_append] at hinside
  have htext : "/**\n".toList ++ (lines.toList ++ [' ']) ++ ['*'] =
      "/**\n".toList ++ lines.toList ++ [' ', '*'] := by simp
  rw [htext]
  exact Lex.not_endsComment_of_inside hinside hcomment hstar

/-- There is no comment on an operation, or it opens on a line of its own and what ends a comment
stands in it once, right before its last line feed. Before the code that follows it, whatever that code
is, nothing else ends a comment. -/
theorem docComment_ends_once (o : Operation) : o.docComment = "" ∨ ∃ lines : List Char,
    o.docComment.toList = "/**\n".toList ++ lines ++ "*/\n".toList ∧
    (∀ front back, Text.EndsComment o.docComment.toList front back ↔
      front = "/**\n".toList ++ lines ∧ back = ['\n']) ∧
    ∀ code front back, Text.EndsComment (o.docComment.toList ++ code) front back ↔
      front = "/**\n".toList ++ lines ∧ back = '\n' :: code ∨
        ∃ later, front = o.docComment.toList ++ later ∧ Text.EndsComment code later back := by
  refine o.docComment_inComment.imp id ?_
  rintro ⟨lines, heq, hfirst⟩
  -- Only code can follow the line feed at the end, so the second statement is the third one for none.
  have hends : ∀ code front back, Text.EndsComment (o.docComment.toList ++ code) front back ↔
      front = "/**\n".toList ++ lines ∧ back = '\n' :: code ∨
        ∃ later, front = o.docComment.toList ++ later ∧ Text.EndsComment code later back := by
    intro code front back
    have htext : o.docComment.toList ++ code =
        "/**\n".toList ++ lines ++ '*' :: '/' :: '\n' :: code := by
      rw [heq]
      simp
    constructor
    case mp =>
      intro h
      rw [htext] at h
      refine (h.first hfirst).imp id ?_
      rintro ⟨later, rfl, hlater⟩
      match later with
      | [] => simp [Text.EndsComment] at hlater
      | c :: later =>
        simp only [Text.EndsComment, List.cons_append, List.cons.injEq] at hlater
        obtain ⟨rfl, hcode⟩ := hlater
        exact ⟨later, by rw [heq]; simp, hcode⟩
    case mpr =>
      rintro (⟨rfl, rfl⟩ | ⟨later, rfl, hcode⟩)
      · exact htext
      · rw [Text.EndsComment, hcode]
        simp
  refine ⟨lines, heq, fun front back => ?_, hends⟩
  have hnone : ∀ later, ¬ Text.EndsComment [] later back := fun later h => by
    simp [Text.EndsComment] at h
  simpa [hnone] using hends [] front back

end Operation

end OpenApi

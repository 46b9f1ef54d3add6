import Mathlib.Data.List.Basic
import OpenApi.Proofs.Code.Statements

/-!
The lines of generated code that begin at top level: in code, where all brackets are closed. What a file
declares is read off the first words of these lines, so that nothing inside of a declaration, of a literal
or of a comment is taken for one. The lines of code that is put together from declarations are those of
the declarations, as each of them begins and ends at top level (`TopLevel.append`).
-/

namespace OpenApi

/-- Whether there is a character to see. -/
def Glyph.isChar : Glyph → Bool
  | .char _ => true
  | .hidden _ => false

namespace Lex

/-- The reader is in code, and all brackets are closed. -/
def State.isTop (s : State) : Bool := s.opened.isEmpty && s.mode == .code

/-- Whether a line begins after a glyph. Hidden text leaves it at that. -/
def startsLine (isStart : Bool) : Glyph → Bool
  | .char c => c == '\n'
  | .hidden _ => isStart

/-- The lines that begin at top level; `isStart` says whether a line begins where the reader is. -/
def topLines (r : Rules) (s : State) (isStart : Bool) : List Glyph → List (List Glyph)
  | [] => []
  | g :: rest =>
    let others := match read r s g with
      | none => []
      | some s' => topLines r s' (startsLine isStart g) rest
    if isStart && s.isTop && g.isChar then (g :: rest).takeWhile (· != .char '\n') :: others
    else others

/-! ## Reading over text -/

/-- The text is read from one state to the other, and no glyph of it stands at top level. -/
inductive Inside (r : Rules) : State → List Glyph → State → Prop
  | nil {s : State} : Inside r s [] s
  | cons {s s₁ s' : State} {g : Glyph} {gs : List Glyph} (h : s.isTop = false)
    (hread : read r s g = some s₁) (rest : Inside r s₁ gs s') : Inside r s (g :: gs) s'

variable {r : Rules} {s s' s'' : State} {isStart : Bool} {g : Glyph} {gs gs' line : List Glyph}

theorem Inside.append (h : Inside r s gs s') (h' : Inside r s' gs' s'') :
    Inside r s (gs ++ gs') s'' := by
  induction h with
  | nil => exact h'
  | cons hs hread _ ih => exact .cons hs hread (ih h')

theorem Inside.readAll (h : Inside r s gs s') : readAll r s gs = some s' := by
  induction h with
  | nil => rfl
  | cons _ hread _ ih => exact Option.bind_eq_some_iff.2 ⟨_, hread, ih⟩

/-- Nothing that has brackets around it stands at top level. -/
theorem Inside.bracketed (h : Lex.readAll r s gs = some s') {around : List Bracket}
    (haround : around ≠ []) : Inside r (s.below around) gs (s'.below around) := by
  induction gs generalizing s with
  | nil =>
    cases h
    exact .nil
  | cons g gs ih =>
    obtain ⟨next, hnext, h⟩ := Option.bind_eq_some_iff.1 h
    refine .cons ?_ (read_below hnext around) (ih h)
    simp [State.isTop, State.below, haround]

theorem topLines_cons (h : (isStart && s.isTop) = false) (hread : read r s g = some s') :
    topLines r s isStart (g :: gs) = topLines r s' (startsLine isStart g) gs := by
  rw [topLines, hread, h]
  rfl

/-- No line begins at top level where no glyph stands there. -/
theorem Inside.topLines_append (h : Inside r s gs s') (isStart : Bool) (rest : List Glyph) :
    topLines r s isStart (gs ++ rest) = topLines r s' (gs.foldl startsLine isStart) rest := by
  induction h generalizing isStart with
  | nil => rfl
  | cons hs hread _ ih =>
    rw [List.cons_append, topLines_cons (by rw [hs, Bool.and_false]) hread, ih, List.foldl_cons]

/-- No line begins in the middle of another one. -/
theorem topLines_inLine (h : readAll r s gs = some s') (hline : Glyph.char '\n' ∉ gs)
    (rest : List Glyph) : topLines r s false (gs ++ rest) = topLines r s' false rest := by
  induction gs generalizing s with
  | nil =>
    cases h
    rfl
  | cons g gs ih =>
    obtain ⟨next, hnext, h⟩ := Option.bind_eq_some_iff.1 h
    obtain ⟨hg, hline⟩ : Glyph.char '\n' ≠ g ∧ Glyph.char '\n' ∉ gs := by simpa using hline
    have hstart : startsLine false g = false := by
      cases g with
      | char c => exact beq_false_of_ne fun hc => hg (hc ▸ rfl)
      | hidden origin => rfl
    rw [List.cons_append, topLines_cons rfl hnext, hstart]
    exact ih h hline

theorem takeWhile_line (hline : Glyph.char '\n' ∉ line) (rest : List Glyph) :
    (line ++ Glyph.char '\n' :: rest).takeWhile (· != Glyph.char '\n') = line := by
  have hall : ∀ g ∈ line, (g != Glyph.char '\n') = true := fun g hg =>
    bne_iff_ne.2 fun heq => hline (heq ▸ hg)
  rw [List.takeWhile_append_of_pos hall]
  simp

/-- A line that begins at top level, whatever is open where it ends. -/
theorem topLines_line (hstart : line.head?.all Glyph.isChar = true) (hline : Glyph.char '\n' ∉ line)
    (h : readAll r {} (line ++ [Glyph.char '\n']) = some s) (rest : List Glyph) :
    topLines r {} true (line ++ Glyph.char '\n' :: rest) = line :: topLines r s true rest := by
  have htake := takeWhile_line hline rest
  cases line with
  | nil =>
    obtain ⟨next, hnext, h⟩ := Option.bind_eq_some_iff.1 h
    cases h
    rw [List.nil_append, topLines, hnext]
    rfl
  | cons g gs =>
    obtain ⟨c, rfl⟩ : ∃ c, g = .char c := by
      cases g with
      | char c => exact ⟨c, rfl⟩
      | hidden origin => cases hstart
    rw [List.cons_append] at h htake ⊢
    obtain ⟨next, hnext, h⟩ := Option.bind_eq_some_iff.1 h
    obtain ⟨hg, hgs⟩ : Glyph.char '\n' ≠ Glyph.char c ∧ Glyph.char '\n' ∉ gs := by simpa using hline
    have hc : startsLine true (.char c) = false := beq_false_of_ne fun hc => hg (hc ▸ rfl)
    rw [readAll_append] at h
    obtain ⟨last, hlast, h⟩ := Option.bind_eq_some_iff.1 h
    obtain ⟨_, hend, h⟩ := Option.bind_eq_some_iff.1 h
    cases h
    rw [topLines, hnext]
    dsimp only
    rw [hc, topLines_inLine hlast hgs, topLines_cons rfl hend, htake]
    rfl

/-! ## Text that begins and ends at top level -/

/-- These are the lines of a text that begin at top level, and so does what follows it. -/
def TopLevel (r : Rules) (gs : List Glyph) (lines : List (List Glyph)) : Prop :=
  ∀ rest, topLines r {} true (gs ++ rest) = lines ++ topLines r {} true rest

namespace TopLevel

variable {lines lines' : List (List Glyph)}

theorem nil : TopLevel r [] [] := fun _ => rfl

theorem append (h : TopLevel r gs lines) (h' : TopLevel r gs' lines') :
    TopLevel r (gs ++ gs') (lines ++ lines') := by
  intro rest
  rw [List.append_assoc, h, h', List.append_assoc]

theorem eq (h : TopLevel r gs lines) : topLines r {} true gs = lines := by
  simpa [topLines] using h []

/-- No line begins with text that is hidden. -/
theorem hidden {origin : Origin} (h : r.mayHide origin = true)
    (hgs : ∀ g ∈ gs, g = .hidden origin) : TopLevel r gs [] := by
  induction gs with
  | nil => exact nil
  | cons g gs ih =>
    obtain ⟨rfl, hrest⟩ := List.forall_mem_cons.1 hgs
    intro rest
    have hread : read r {} (.hidden origin) = some {} := if_pos h
    rw [List.cons_append, topLines, hread]
    exact ih hrest rest

/-- A line of its own. -/
theorem single (hstart : line.head?.all Glyph.isChar = true) (hline : Glyph.char '\n' ∉ line)
    (h : Sound r line) : TopLevel r (line ++ [Glyph.char '\n']) [line] := by
  obtain ⟨⟨mode, opened, word⟩, hs, rfl, hmode⟩ := h
  have hread : readAll r {} (line ++ [Glyph.char '\n']) = some {} := by
    rw [readAll_append_of_eq_some hs]
    rcases hmode with rfl | rfl <;> rfl
  intro rest
  rw [List.append_assoc, List.singleton_append, topLines_line hstart hline hread]
  rfl

/-- A line that opens something, which the glyph `g` closes. Nothing between them stands at top level. -/
theorem enclosed {inner closing : List Glyph} (hstart : line.head?.all Glyph.isChar = true)
    (hline : Glyph.char '\n' ∉ line) (hopen : readAll r {} (line ++ [Glyph.char '\n']) = some s)
    (hinner : Inside r s (inner ++ [g]) {}) (hg : ∀ isStart, startsLine isStart g = false)
    (hclosing : Glyph.char '\n' ∉ closing)
    (hclose : readAll r {} (closing ++ [Glyph.char '\n']) = some {}) :
    TopLevel r (line ++ Glyph.char '\n' :: (inner ++ g :: (closing ++ [Glyph.char '\n']))) [line] := by
  intro rest
  have hafter (isStart : Bool) : (inner ++ [g]).foldl startsLine isStart = false := by
    rw [List.foldl_append]
    exact hg _
  have hend : topLines r {} false (closing ++ Glyph.char '\n' :: rest) = topLines r {} true rest := by
    rw [readAll_append] at hclose
    obtain ⟨s, hs, hclose⟩ := Option.bind_eq_some_iff.1 hclose
    obtain ⟨_, hread, h⟩ := Option.bind_eq_some_iff.1 hclose
    cases h
    rw [topLines_inLine hs hclosing, topLines_cons rfl hread]
    rfl
  have hsplit : line ++ Glyph.char '\n' :: (inner ++ g :: (closing ++ [Glyph.char '\n'])) ++ rest =
      line ++ Glyph.char '\n' :: (inner ++ [g] ++ (closing ++ Glyph.char '\n' :: rest)) := by simp
  rw [hsplit, topLines_line hstart hline hopen, hinner.topLines_append, hafter, hend]
  rfl

/-- A line that opens a block. -/
theorem block {inner closing : List Glyph} (hstart : line.head?.all Glyph.isChar = true)
    (hline : Glyph.char '\n' ∉ line)
    (hopen : readAll r {} (line ++ [Glyph.char '\n']) = some (.code [.brace]))
    (hinner : Complete r inner) (hclosing : Glyph.char '\n' ∉ closing)
    (hclose : readAll r {} (closing ++ [Glyph.char '\n']) = some {}) :
    TopLevel r (line ++ Glyph.char '\n' ::
      (inner ++ Glyph.char '\x7d' :: (closing ++ [Glyph.char '\n']))) [line] :=
  enclosed hstart hline hopen ((Inside.bracketed hinner (List.cons_ne_nil _ _)).append
    (.cons rfl rfl .nil)) (fun _ => rfl) hclosing hclose

end TopLevel

end Lex

end OpenApi

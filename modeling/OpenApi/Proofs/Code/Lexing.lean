import OpenApi.Code

/-!
Reading code as far as brackets, literals and comments go. A reader goes over the characters from left to
right; it remembers the brackets that are open and what it is inside of, and it stops where a bracket
does not match. Whatever is around a piece of code, reading it is the same (`readAll_below`), so that
what is known of pieces by themselves holds wherever they are put.

Not all text has to be looked at: text that is hidden is a gap between the characters around it.
-/

namespace OpenApi

/-- What there is to read: a character, or one that is hidden and comes from the given origin. -/
inductive Glyph where
  | char (c : Char)
  | hidden (origin : Origin)
  deriving DecidableEq, Repr

namespace Lex

/-- The brackets. A hole is what opens inside of a template literal. -/
inductive Bracket where
  | paren
  | square
  | brace
  | hole
  deriving DecidableEq, Repr

/-- What the reader is inside of. -/
inductive Mode where
  | code
  /-- in code, after a slash -/
  | slash
  | quote (mark : Char)
  | quoteEscape (mark : Char)
  /-- in the text of a template literal -/
  | literal
  | literalEscape
  /-- in the text of a template literal, after a dollar sign -/
  | dollar
  | comment
  /-- in a comment, after a star -/
  | star
  deriving DecidableEq, Repr

/-- The state of the reader: the open brackets have the innermost one first, and the word is as much of
an identifier as stands directly before, with a qualifier and its dot in front of it if the rules look at
qualified names. -/
structure State where
  mode : Mode := .code
  opened : List Bracket := []
  word : List Char := []
  deriving DecidableEq, Repr

/-- What the reader lets pass: words before a dot, the origins of hidden text, and words that are called,
before a parenthesis. A word that qualifies makes up one word with what follows the dot. -/
structure Rules where
  mayAccess : List Char → Bool
  mayHide : Origin → Bool
  mayCall : List Char → Bool := fun _ => true
  qualifies : List Char → Bool := fun _ => false

/-- Everything passes. -/
def everything : Rules where
  mayAccess _ := true
  mayHide _ := true

/-- A dot may follow the word, and nothing of the word is left behind it. -/
def Rules.isValue (r : Rules) (word : List Char) : Bool := r.mayAccess word && !r.qualifies word

/-- The word behind a dot that follows the word. -/
def Rules.behind (r : Rules) (word : List Char) : List Char :=
  if r.qualifies word then word ++ ['.'] else []

namespace State

/-- The state in code, not after an identifier. -/
def code (opened : List Bracket) : State := { opened }

/-- The state inside of something. -/
def inside (mode : Mode) (opened : List Bracket) : State := { mode, opened }

/-- The state after a bracket that closes. -/
def close (s : State) (bracket : Bracket) : Option State :=
  match s.opened with
  | [] => none
  | other :: rest => if other = bracket then some (code rest) else none

/-- The state after a brace that closes; a template literal goes on after a hole. -/
def closeBrace (s : State) : Option State :=
  match s.opened with
  | .brace :: rest => some (code rest)
  | .hole :: rest => some (inside .literal rest)
  | _ => none

/-- The state where there are more brackets around. -/
def below (s : State) (around : List Bracket) : State := { s with opened := s.opened ++ around }

/-- The reader is in code and all brackets are closed. -/
def AtRest (s : State) : Prop := s.opened = [] ∧ (s.mode = .code ∨ s.mode = .slash)

end State

section

variable (r : Rules)

/-- Reading a character of code. -/
def readCode (s : State) (c : Char) : Option State :=
  match c with
  | '(' => if r.mayCall s.word then some (.code (.paren :: s.opened)) else none
  | '[' => some (.code (.square :: s.opened))
  | '\x7b' => some (.code (.brace :: s.opened))
  | ')' => s.close .paren
  | ']' => s.close .square
  | '\x7d' => s.closeBrace
  | '"' => some (.inside (.quote '"') s.opened)
  | '\'' => some (.inside (.quote '\'') s.opened)
  | '\x60' => some (.inside .literal s.opened)
  | '/' => some (.inside .slash s.opened)
  | '.' => if r.mayAccess s.word then some ⟨.code, s.opened, r.behind s.word⟩ else none
  | c =>
    if Name.isIdentifierPart c then some ⟨.code, s.opened, s.word ++ [c]⟩
    else some (.code s.opened)

/-- Reading a character of the text of a template literal. -/
def readLiteral (s : State) (c : Char) : State :=
  match c with
  | '\x60' => .code s.opened
  | '\\' => .inside .literalEscape s.opened
  | '$' => .inside .dollar s.opened
  | _ => .inside .literal s.opened

/-- Reading a character. -/
def readChar (s : State) (c : Char) : Option State :=
  match s.mode with
  | .code => readCode r s c
  | .slash => if c = '*' then some (.inside .comment s.opened) else readCode r s c
  | .quote mark =>
    if c = '\\' then some (.inside (.quoteEscape mark) s.opened)
    else if c = mark then some (.code s.opened)
    else some (.inside (.quote mark) s.opened)
  | .quoteEscape mark => some (.inside (.quote mark) s.opened)
  | .literal => some (readLiteral s c)
  | .literalEscape => some (.inside .literal s.opened)
  | .dollar => if c = '\x7b' then some (.code (.hole :: s.opened)) else some (readLiteral s c)
  | .comment => some (.inside (if c = '*' then .star else .comment) s.opened)
  | .star =>
    if c = '/' then some (.code s.opened)
    else some (.inside (if c = '*' then .star else .comment) s.opened)

/-- Reading on. Hidden text ends an identifier. -/
def read (s : State) : Glyph → Option State
  | .char c => readChar r s c
  | .hidden origin =>
    if r.mayHide origin then
      match s.mode with
      | .code | .slash => some (.code s.opened)
      | mode => some (.inside mode s.opened)
    else none

/-- Reading to the end. -/
def readAll (s : State) : List Glyph → Option State
  | [] => some s
  | g :: rest => (read r s g).bind fun s => readAll s rest

end

/-! ## Composition -/

variable {r r' : Rules} {s s' : State}

theorem readAll_append (xs ys : List Glyph) :
    readAll r s (xs ++ ys) = (readAll r s xs).bind fun s => readAll r s ys := by
  induction xs generalizing s with
  | nil => rfl
  | cons x xs ih =>
    rw [List.cons_append, readAll, readAll, Option.bind_assoc]
    exact congrArg _ (funext fun _ => ih)

theorem readAll_append_of_eq_some {xs ys : List Glyph} (h : readAll r s xs = some s') :
    readAll r s (xs ++ ys) = readAll r s' ys := by
  rw [readAll_append, h, Option.bind_some]

/-! ## Surroundings -/

theorem State.close_below {bracket : Bracket} (h : s.close bracket = some s')
    (around : List Bracket) : (s.below around).close bracket = some (s'.below around) := by
  obtain ⟨mode, opened, word⟩ := s
  cases opened with
  | nil => cases h
  | cons other rest =>
    dsimp only [close, below, List.cons_append] at h ⊢
    split at h
    case isTrue heq =>
      cases h
      rw [if_pos heq]
      rfl
    case isFalse => cases h

theorem State.closeBrace_below (h : s.closeBrace = some s') (around : List Bracket) :
    (s.below around).closeBrace = some (s'.below around) := by
  obtain ⟨mode, opened, word⟩ := s
  cases opened with
  | nil => cases h
  | cons other rest => cases other <;> cases h <;> rfl

theorem readCode_below {c : Char} (h : readCode r s c = some s') (around : List Bracket) :
    readCode r (s.below around) c = some (s'.below around) := by
  unfold readCode at h ⊢
  split at h
  case h_1 =>
    split at h
    case isTrue hword =>
      cases h
      exact if_pos hword
    case isFalse => cases h
  case h_4 => exact State.close_below h around
  case h_5 => exact State.close_below h around
  case h_6 => exact State.closeBrace_below h around
  case h_11 =>
    split at h
    case isTrue hword =>
      cases h
      exact if_pos hword
    case isFalse => cases h
  case h_12 =>
    split at h
    case isTrue hpart =>
      cases h
      exact if_pos hpart
    case isFalse hpart =>
      cases h
      exact if_neg hpart
  all_goals
    cases h
    rfl

theorem readLiteral_below (c : Char) (around : List Bracket) :
    readLiteral (s.below around) c = (readLiteral s c).below around := by
  unfold readLiteral
  split <;> rfl

theorem readChar_below {c : Char} (h : readChar r s c = some s') (around : List Bracket) :
    readChar r (s.below around) c = some (s'.below around) := by
  obtain ⟨mode, opened, word⟩ := s
  cases mode with
  | code => exact readCode_below h around
  | slash =>
    dsimp only [readChar, State.below] at h ⊢
    split at h
    case isTrue hstar =>
      cases h
      exact if_pos hstar
    case isFalse hstar =>
      rw [if_neg hstar]
      exact readCode_below h around
  | literal =>
    cases h
    exact congrArg some (readLiteral_below c around)
  | dollar =>
    dsimp only [readChar, State.below] at h ⊢
    split at h
    case isTrue hbrace =>
      cases h
      exact if_pos hbrace
    case isFalse hbrace =>
      cases h
      rw [if_neg hbrace]
      exact congrArg some (readLiteral_below (s := ⟨.dollar, opened, word⟩) c around)
  | _ =>
    dsimp only [readChar, State.below] at h ⊢
    repeat' split at h
    all_goals
      cases h
      simp_all [State.inside, State.code]

theorem read_below {g : Glyph} (h : read r s g = some s') (around : List Bracket) :
    read r (s.below around) g = some (s'.below around) := by
  cases g with
  | char c => exact readChar_below h around
  | hidden origin =>
    obtain ⟨mode, opened, word⟩ := s
    dsimp only [read, State.below] at h ⊢
    split at h
    case isFalse => cases h
    case isTrue hhide =>
      rw [if_pos hhide]
      cases mode <;> cases h <;> rfl

/-- What is read is read in the same way where there are more brackets around. -/
theorem readAll_below {gs : List Glyph} (h : readAll r s gs = some s') (around : List Bracket) :
    readAll r (s.below around) gs = some (s'.below around) := by
  induction gs generalizing s with
  | nil =>
    cases h
    rfl
  | cons g gs ih =>
    obtain ⟨next, hnext, h⟩ := Option.bind_eq_some_iff.1 h
    rw [readAll, read_below hnext around]
    exact ih h

/-! ## Rules -/

/-- Laxer rules let pass whatever stricter ones do, and read it in the same way. -/
structure Rules.Refines (r r' : Rules) : Prop where
  access : ∀ word, r.mayAccess word = true → r'.mayAccess word = true
  hide : ∀ origin, r.mayHide origin = true → r'.mayHide origin = true
  call : ∀ word, r.mayCall word = true → r'.mayCall word = true
  qualifies : ∀ word, r.mayAccess word = true → r'.qualifies word = r.qualifies word

theorem refines_everything (h : ∀ word, r.qualifies word = false) : r.Refines everything where
  access _ _ := rfl
  hide _ _ := rfl
  call _ _ := rfl
  qualifies word _ := (h word).symm

theorem Rules.Refines.isValue (hr : r.Refines r') {word : List Char} (h : r.isValue word = true) :
    r'.isValue word = true := by
  obtain ⟨haccess, hqualifies⟩ := Bool.and_eq_true_iff.1 h
  rw [Rules.isValue, hr.access _ haccess, hr.qualifies _ haccess]
  exact hqualifies

theorem Rules.Refines.behind (hr : r.Refines r') {word : List Char} (h : r.mayAccess word = true) :
    r'.behind word = r.behind word := by
  rw [Rules.behind, hr.qualifies _ h, Rules.behind]

theorem Rules.behind_of_isValue {word : List Char} (h : r.isValue word = true) : r.behind word = [] := by
  obtain ⟨_, hqualifies⟩ := Bool.and_eq_true_iff.1 h
  exact if_neg (by simpa using hqualifies)

theorem readCode_of_refines (hr : r.Refines r') {c : Char} (h : readCode r s c = some s') :
    readCode r' s c = some s' := by
  unfold readCode at h ⊢
  split at h
  case h_1 =>
    split at h
    case isTrue hword =>
      cases h
      exact if_pos (hr.call _ hword)
    case isFalse => cases h
  case h_11 =>
    split at h
    case isTrue hword =>
      cases h
      rw [← hr.behind hword]
      exact if_pos (hr.access _ hword)
    case isFalse => cases h
  all_goals exact h

theorem readChar_of_refines (hr : r.Refines r') {c : Char} (h : readChar r s c = some s') :
    readChar r' s c = some s' := by
  obtain ⟨mode, opened, word⟩ := s
  cases mode with
  | code => exact readCode_of_refines hr h
  | slash =>
    dsimp only [readChar] at h ⊢
    split at h
    case isTrue hstar => rw [if_pos hstar, h]
    case isFalse hstar =>
      rw [if_neg hstar]
      exact readCode_of_refines hr h
  | _ => exact h

theorem read_of_refines (hr : r.Refines r') {g : Glyph} (h : read r s g = some s') :
    read r' s g = some s' := by
  cases g with
  | char c => exact readChar_of_refines hr h
  | hidden origin =>
    dsimp only [read] at h ⊢
    split at h
    case isTrue hhide => rw [if_pos (hr.hide _ hhide), h]
    case isFalse => cases h

theorem readAll_of_refines (hr : r.Refines r') {gs : List Glyph} (h : readAll r s gs = some s') :
    readAll r' s gs = some s' := by
  induction gs generalizing s with
  | nil => exact h
  | cons g gs ih =>
    obtain ⟨next, hnext, h⟩ := Option.bind_eq_some_iff.1 h
    rw [readAll, read_of_refines hr hnext]
    exact ih h

end Lex

end OpenApi

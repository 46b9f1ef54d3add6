import OpenApi.Code.Statement

/-!
A builder of indented lines, which opens blocks and closes them again. Statements are written by such
a builder (`run_steps`): it ends as deep as it began, and whatever is around the statements, it closes
no block but those that they have opened.
-/

namespace OpenApi

/-! ## Joining code -/

namespace Code

theorem extend_of_isEmpty {f : Fragment} (h : f.text.isEmpty = true) (a : List Fragment) :
    extend a f = a := by
  fun_induction extend a f <;> simp_all

theorem extend_cons (g : Fragment) {a : List Fragment} (h : a ≠ []) (f : Fragment) :
    extend (g :: a) f = g :: extend a f := by
  cases a with
  | nil => exact absurd rfl h
  | cons x rest => rfl

theorem extend_ne_nil {a : List Fragment} (h : a ≠ []) (f : Fragment) : extend a f ≠ [] := by
  fun_induction extend a f <;> simp_all

/-- Text of one origin may come in two pieces. -/
theorem extend_extend {g f : Fragment} (h : g.origin = f.origin) (a : List Fragment) :
    extend (extend a g) f = extend a ⟨g.text ++ f.text, g.origin⟩ := by
  by_cases hg : g.text.isEmpty = true
  · have hf : (⟨g.text ++ f.text, g.origin⟩ : Fragment) = f := by
      rw [String.isEmpty_iff.1 hg, h, String.empty_append]
    rw [extend_of_isEmpty hg, hf]
  by_cases hf : f.text.isEmpty = true
  · have hg' : (⟨g.text ++ f.text, g.origin⟩ : Fragment) = g := by
      rw [String.isEmpty_iff.1 hf, String.append_empty]
    rw [extend_of_isEmpty hf, hg']
  have hboth : ¬(g.text ++ f.text).isEmpty = true := by
    simpa [String.isEmpty_iff] using fun he => absurd (String.isEmpty_iff.2 he) hg
  induction a with
  | nil => simp [extend, hg, hf, hboth, h]
  | cons x rest ih =>
    cases rest with
    | nil =>
      by_cases hx : x.origin = f.origin
      · simp [extend, hg, hf, hboth, hx, h, String.append_assoc]
      · simp [extend, hg, hf, hboth, hx, h]
    | cons y rest =>
      have hne := extend_ne_nil (List.cons_ne_nil y rest) g
      show extend (x :: extend (y :: rest) g) f = x :: extend (y :: rest) _
      rw [extend_cons x hne, ih]

theorem foldl_extend_extend (a b : List Fragment) (f : Fragment) :
    (extend b f).foldl extend a = extend (b.foldl extend a) f := by
  fun_induction extend b f generalizing a with
  | case1 f h => exact (extend_of_isEmpty h a).symm
  | case2 f h => rfl
  | case3 last f h => exact (extend_of_isEmpty h _).symm
  | case4 last f h e => exact (extend_extend e a).symm
  | case5 last f h e => rfl
  | case6 g h rest f ih => exact ih (extend a g)

theorem append_assoc (a b c : Code) : a ++ b ++ c = a ++ (b ++ c) := by
  obtain ⟨xs⟩ := a
  obtain ⟨ys⟩ := b
  obtain ⟨zs⟩ := c
  show (⟨zs.foldl extend (ys.foldl extend xs)⟩ : Code) = ⟨(zs.foldl extend ys).foldl extend xs⟩
  induction zs generalizing ys with
  | nil => rfl
  | cons z zs ih =>
    rw [List.foldl_cons, List.foldl_cons, ← ih, foldl_extend_extend]

theorem append_empty (a : Code) : a ++ Code.empty = a := rfl

end Code

/-! ## The builder -/

/-- What a builder does next. -/
inductive Lines.Step where
  | line (code : Code)
  /-- a block opens -/
  | opening (head : Code)
  /-- the block ends, and another clause of it begins -/
  | reopening (head : Code)
  /-- the block ends -/
  | closing

/-- A builder: the lines so far, and the number of blocks that are open around the next one. -/
structure Lines where
  out : Code := Code.empty
  depth : Nat

namespace Lines

/-- One step of a builder that began `start` blocks deep. It does not close what it has not opened. -/
def step (start : Nat) (lines : Lines) : Step → Option Lines
  | .line code => some { lines with out := lines.out ++ Statement.indented lines.depth code }
  | .opening head =>
    some ⟨lines.out ++ Statement.indented lines.depth (head ++ " \x7b"), lines.depth + 1⟩
  | .reopening head =>
    if start < lines.depth then
      some { lines with
        out := lines.out ++
          Statement.indented (lines.depth - 1) (Code.cat ["\x7d ", head, " \x7b"]) }
    else none
  | .closing =>
    if start < lines.depth then
      some ⟨lines.out ++ Statement.indented (lines.depth - 1) "\x7d", lines.depth - 1⟩
    else none

/-- Some steps one after the other. -/
def run (start : Nat) (lines : Lines) (steps : List Step) : Option Lines :=
  steps.foldlM (step start) lines

variable {start depth : Nat} {lines lines' : Lines} {steps steps' : List Step}

theorem step_reopening (h : start < lines.depth) (head : Code) :
    step start lines (.reopening head) = some { lines with
      out := lines.out ++ Statement.indented (lines.depth - 1) (Code.cat ["\x7d ", head, " \x7b"]) } :=
  if_pos h

theorem step_closing (h : start < lines.depth) : step start lines .closing =
    some ⟨lines.out ++ Statement.indented (lines.depth - 1) "\x7d", lines.depth - 1⟩ :=
  if_pos h

theorem run_append (h : run start lines steps = some lines') :
    run start lines (steps ++ steps') = run start lines' steps' := by
  rw [run, List.foldlM_append]
  exact (congrArg (· >>= _) h).trans rfl

theorem run_cons {s : Step} (h : step start lines s = some lines') :
    run start lines (s :: steps) = run start lines' steps := by
  rw [run, List.foldlM_cons]
  exact (congrArg (· >>= _) h).trans rfl

end Lines

namespace Statement

open Lines (Step run)

mutual

/-- The steps that write a statement. -/
def steps : Statement → List Step
  | .line code => [.line code]
  | .block head body others => .opening head :: stepsOfAll body ++ stepsOfOthers others

/-- The steps that write the clauses of a block after the first one, up to its end. -/
def stepsOfOthers : List (Code × List Statement) → List Step
  | [] => [.closing]
  | (head, body) :: rest => .reopening head :: stepsOfAll body ++ stepsOfOthers rest

/-- The steps that write statements one after the other. -/
def stepsOfAll : List Statement → List Step
  | [] => []
  | statement :: rest => steps statement ++ stepsOfAll rest

end

mutual

/-- A statement is written as it is printed, and all its blocks are closed then. -/
theorem run_steps {start depth : Nat} (h : start ≤ depth) (out : Code) : ∀ statement : Statement,
    run start ⟨out, depth⟩ statement.steps = some ⟨out ++ statement.code depth, depth⟩
  | .line text => by
    rw [steps, code]
    rfl
  | .block head body others => by
    rw [steps, code, List.cons_append]
    refine (Lines.run_cons rfl).trans ?_
    refine (Lines.run_append (run_stepsOfAll (Nat.le_succ_of_le h) _ body)).trans ?_
    rw [run_stepsOfOthers h _ others, Code.append_assoc, Code.append_assoc, Code.append_assoc]

/-- The clauses of a block end one block higher than they begin. -/
theorem run_stepsOfOthers {start depth : Nat} (h : start ≤ depth) (out : Code) :
    ∀ others : List (Code × List Statement), run start ⟨out, depth + 1⟩ (stepsOfOthers others) =
      some ⟨out ++ codeOfOthers depth others, depth⟩
  | [] => by
    rw [stepsOfOthers, codeOfOthers]
    exact (Lines.run_cons (Lines.step_closing (Nat.lt_succ_of_le h))).trans rfl
  | (head, body) :: rest => by
    rw [stepsOfOthers, codeOfOthers, List.cons_append]
    refine (Lines.run_cons (Lines.step_reopening (Nat.lt_succ_of_le h) head)).trans ?_
    refine (Lines.run_append (run_stepsOfAll (Nat.le_succ_of_le h) _ body)).trans ?_
    rw [run_stepsOfOthers h _ rest, Code.append_assoc, Code.append_assoc, Code.append_assoc]
    rfl

theorem run_stepsOfAll {start depth : Nat} (h : start ≤ depth) (out : Code) :
    ∀ statements : List Statement, run start ⟨out, depth⟩ (stepsOfAll statements) =
      some ⟨out ++ codeOfAll depth statements, depth⟩
  | [] => by
    rw [stepsOfAll, codeOfAll]
    rfl
  | statement :: rest => by
    rw [stepsOfAll, codeOfAll]
    refine (Lines.run_append (run_steps h out statement)).trans ?_
    rw [run_stepsOfAll h _ rest, Code.append_assoc]

end

end Statement

end OpenApi

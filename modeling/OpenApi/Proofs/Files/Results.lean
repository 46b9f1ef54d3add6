import OpenApi.Proofs.Files.Steps

/-!
What the steps of writing a file result in. `Ensures` says that a step which does not fail has a result
with a property; it is closed under sequencing, so the result of a compiler is read off its text.
-/

namespace OpenApi

theorem exists_mem_iff {α β : Type} {A : α → Prop} {B : β → Prop} {xs : List α} {ys : List β}
    (h : List.Forall₂ (fun x y => B y ↔ A x) xs ys) : (∃ y ∈ ys, B y) ↔ ∃ x ∈ xs, A x := by
  induction h with
  | nil => simp
  | cons hx _ ih => rw [List.exists_mem_cons_iff, List.exists_mem_cons_iff, hx, ih]

/-- If the step does not fail, its result has the property. -/
def Ensures {m : Type → Type} [Monad m] [Yields m] {α : Type} (step : StateT Progress m α)
    (P : α → Prop) : Prop :=
  ∀ s a s', Yields.yields (step s) (a, s') → P a

namespace Ensures

section

variable {m : Type → Type} [Monad m] [Yields m] {α β : Type} {P : α → Prop} {Q : β → Prop}

theorem pure {a : α} (h : P a) : Ensures (Pure.pure a : StateT Progress m α) P := by
  intro s b s' hb
  cases Yields.yields_pure hb
  exact h

theorem bind {step : StateT Progress m α} {f : α → StateT Progress m β} (h : Ensures step P)
    (hf : ∀ a, P a → Ensures (f a) Q) : Ensures (step >>= f) Q := by
  intro s b s' hb
  obtain ⟨a, s₁, ha, hb⟩ := Yields.step_bind hb
  exact hf a (h s a s₁ ha) s₁ b s' hb

theorem any (step : StateT Progress m α) : Ensures step fun _ => True := fun _ _ _ _ => trivial

theorem result (step : StateT Progress m α) :
    Ensures step fun a => ∃ s s', Yields.yields (step s) (a, s') := fun s _ s' h => ⟨s, s', h⟩

/-- Sequencing where the first step may have any result. -/
theorem bind_any {step : StateT Progress m α} {f : α → StateT Progress m β}
    (hf : ∀ a, Ensures (f a) Q) : Ensures (step >>= f) Q :=
  (any step).bind fun a _ => hf a

/-- Sequencing where the first step reads a value. -/
theorem bind_read {x : m α} {f : α → StateT Progress m β}
    (hf : ∀ a, Yields.yields x a → Ensures (f a) Q) :
    Ensures ((liftM x : StateT Progress m α) >>= f) Q := by
  intro s b s' hb
  obtain ⟨a, hx, hb⟩ := Yields.step_read hb
  exact hf a hx s b s' hb

theorem map {step : StateT Progress m α} (g : α → β) (h : Ensures step fun a => Q (g a)) :
    Ensures (g <$> step) Q := by
  intro s b s' hb
  obtain ⟨a, ha, rfl⟩ := Yields.step_map hb
  exact h s a s' ha

theorem ite_of {p : Prop} [Decidable p] {step step' : StateT Progress m α} (h : p → Ensures step P)
    (h' : ¬p → Ensures step' P) : Ensures (if p then step else step') P := by
  split
  case isTrue hp => exact h hp
  case isFalse hp => exact h' hp

theorem ite {p : Prop} [Decidable p] {step step' : StateT Progress m α} (h : Ensures step P)
    (h' : Ensures step' P) : Ensures (if p then step else step') P := ite_of (fun _ => h) fun _ => h'

theorem mono {P' : α → Prop} {step : StateT Progress m α} (h : Ensures step P')
    (hp : ∀ a, P' a → P a) : Ensures step P :=
  fun s a s' ha => hp a (h s a s' ha)

theorem and {P' : α → Prop} {step : StateT Progress m α} (h : Ensures step P)
    (h' : Ensures step P') : Ensures step fun a => P a ∧ P' a :=
  fun s a s' ha => ⟨h s a s' ha, h' s a s' ha⟩

/-- The results of a sequence are those of its steps, in order. -/
theorem mapM [LawfulMonad m] {γ : Type} {f : γ → StateT Progress m β} {R : γ → β → Prop}
    {xs : List γ} (h : ∀ x ∈ xs, Ensures (f x) (R x)) :
    Ensures (xs.mapM f) (List.Forall₂ R xs) := by
  induction xs with
  | nil => exact .pure .nil
  | cons x xs ih =>
    rw [List.mapM_cons]
    refine .bind (h x (by simp)) fun y hy => ?_
    exact .bind (ih fun x hx => h x (by simp [hx])) fun ys hys => .pure (.cons hy hys)

end

variable {α β : Type} {P : α → Prop} {Q : β → Prop}

/-- Nothing results from a failure. -/
theorem throw (e : CompileError) : Ensures (MonadExcept.throw e : Compile α) P :=
  fun _ _ _ h => absurd h Yields.not_step_throw

/-- A step that issues no warnings, among others that may. -/
theorem lift {step : Compile α} (h : Ensures step P) : Ensures (liftM step : Write α) P :=
  fun s a s' ha => h s a s' (Yields.step_lift ha)

/-- Reading a value among steps that may issue warnings. -/
theorem bind_read' {x : Except CompileError α} {f : α → Write β}
    (hf : ∀ a, x = .ok a → Ensures (f a) Q) : Ensures ((liftM x : Write α) >>= f) Q := by
  intro s b s' hb
  obtain ⟨a, hx, hb⟩ := Yields.step_read' hb
  exact hf a hx s b s' hb

end Ensures

/-- The statement that reports a malformed value, as a text. -/
theorem Compile.throwMalformed_eq (location name message : String) :
    Ensures (throwMalformed location name message) (· =
      "throw new Runtime.MalformedError(" ++ Text.quoted location ++ ", " ++ Text.quoted name ++
        ", " ++ message ++ ");") := by
  refine .bind (P := (· = "Runtime." ++ "MalformedError")) (.bind_any fun _ => .pure rfl) ?_
  rintro _ rfl
  have herror : "throw new " ++ ("Runtime." ++ "MalformedError") ++ "(" =
    "throw new Runtime.MalformedError(" := by decide
  exact .pure (by rw [herror])

end OpenApi

import Mathlib.Data.List.Forall2
import OpenApi.Generate
import OpenApi.Proofs.Conversion.Walk

/-!
What the steps of writing a file keep. A property of the questions about references is kept by every step
that asks nothing, and by the steps put together from steps that keep it; whether a step may issue
warnings makes no difference (`Yields`).
-/

namespace OpenApi

theorem exists_mem_zip {α β : Type} {R : α → β → Prop} {xs : List α} {ys : List β}
    (h : List.Forall₂ R xs ys) {x : α} (hx : x ∈ xs) : ∃ y, (x, y) ∈ xs.zip ys ∧ R x y := by
  induction h with
  | nil => cases hx
  | cons hxy _ ih =>
    rcases List.mem_cons.1 hx with rfl | hx
    · exact ⟨_, List.mem_cons_self, hxy⟩
    · obtain ⟨y, hmem, hy⟩ := ih hx
      exact ⟨y, List.mem_cons_of_mem _ hmem, hy⟩

/-- Monads whose computations end with a result, or fail. -/
class Yields (m : Type → Type) [Monad m] where
  /-- the computation ends with the result, from some state at least -/
  yields {α : Type} : m α → α → Prop
  yields_pure {α : Type} {a b : α} : yields (pure a) b → b = a
  yields_bind {α β : Type} {x : m α} {f : α → m β} {b : β} :
    yields (x >>= f) b → ∃ a, yields x a ∧ yields (f a) b

namespace Yields

instance : Yields (Except CompileError) where
  yields x a := x = .ok a
  yields_pure h := by cases h; rfl
  yields_bind {_ _ x _ _} h := by
    cases x with
    | error e => cases h
    | ok a => exact ⟨a, rfl, h⟩

instance : Yields (ExceptT CompileError (StateM (List Warning))) where
  yields x a := ∃ issued issued', x issued = (.ok a, issued')
  yields_pure := by
    rintro _ a b ⟨issued, issued', h⟩
    cases h
    rfl
  yields_bind := by
    rintro _ _ x f b ⟨issued, issued', h⟩
    change ExceptT.bindCont f (x issued).1 (x issued).2 = _ at h
    rcases hx : x issued with ⟨_ | a, issued₁⟩
    · rw [hx] at h; cases h
    · rw [hx] at h
      exact ⟨a, ⟨issued, issued₁, hx⟩, issued₁, issued', h⟩

theorem ite {m : Type → Type} [Monad m] [Yields m] {α : Type} {p : Prop} [Decidable p] {x y : m α}
    {a : α} (h : yields (if p then x else y) a) : p ∧ yields x a ∨ ¬p ∧ yields y a := by
  split at h
  case isTrue hp => exact .inl ⟨hp, h⟩
  case isFalse hp => exact .inr ⟨hp, h⟩

/-- The results of a sequence are those of its computations, in order. -/
theorem mapM_forall₂ {m : Type → Type} [Monad m] [LawfulMonad m] [Yields m] {α β : Type}
    {f : α → m β} {xs : List α} {ys : List β} (h : yields (xs.mapM f) ys) :
    List.Forall₂ (fun x y => yields (f x) y) xs ys := by
  induction xs generalizing ys with
  | nil => cases yields_pure h; exact .nil
  | cons x xs ih =>
    rw [List.mapM_cons] at h
    obtain ⟨y, hy, h⟩ := yields_bind h
    obtain ⟨ys', hys, h⟩ := yields_bind h
    cases yields_pure h
    exact .cons hy (ih hys)

theorem mapM {m : Type → Type} [Monad m] [LawfulMonad m] [Yields m] {α β : Type} {f : α → m β}
    {xs : List α} {ys : List β} (h : yields (xs.mapM f) ys) :
    ∀ y ∈ ys, ∃ x ∈ xs, yields (f x) y := by
  intro y hy
  obtain ⟨x, hmem, hx⟩ := exists_mem_zip (mapM_forall₂ h).flip hy
  exact ⟨x, (List.of_mem_zip hmem).2, hx⟩

theorem lift {α : Type} {x : Except CompileError α} {a : α} (h : yields (liftM x : Report α) a) :
    x = .ok a := by
  obtain ⟨issued, issued', h⟩ := h
  cases h
  rfl

section

variable {m : Type → Type} [Monad m] [Yields m] {α β : Type} {s s' : Progress}

/-- What a sequence of steps ends with, the second one does, where the first one has ended. -/
theorem step_bind {step : StateT Progress m α} {f : α → StateT Progress m β} {b : β}
    (h : yields ((step >>= f) s) (b, s')) :
    ∃ a s₁, yields (step s) (a, s₁) ∧ yields (f a s₁) (b, s') := by
  obtain ⟨⟨a, s₁⟩, ha, hb⟩ := yields_bind h
  exact ⟨a, s₁, ha, hb⟩

/-- Reading a value leaves the state as it is. -/
theorem step_read {x : m α} {f : α → StateT Progress m β} {b : β}
    (h : yields (((liftM x : StateT Progress m α) >>= f) s) (b, s')) :
    ∃ a, yields x a ∧ yields (f a s) (b, s') := by
  obtain ⟨a, s₁, ha, hb⟩ := step_bind h
  obtain ⟨_, hx, ha⟩ := yields_bind ha
  cases yields_pure ha
  exact ⟨a, hx, hb⟩

theorem step_map {step : StateT Progress m α} {g : α → β} {b : β}
    (h : yields ((g <$> step) s) (b, s')) : ∃ a, yields (step s) (a, s') ∧ b = g a := by
  obtain ⟨⟨a, s₁⟩, ha, hb⟩ := yields_bind h
  cases yields_pure hb
  exact ⟨a, ha, rfl⟩

/-- A step that issues no warnings ends the same way among others that may. -/
theorem step_lift {step : Compile α} {a : α} (h : yields ((liftM step : Write α) s) (a, s')) :
    yields (step s) (a, s') := by
  obtain ⟨issued, issued', h⟩ := h
  exact congrArg Prod.fst h

/-- Nothing results from a failure. -/
theorem not_step_throw {e : CompileError} {a : α} :
    ¬yields ((MonadExcept.throw e : Compile α) s) (a, s') := by
  intro h
  cases h

theorem not_step_throw_bind {e : CompileError} {f : α → Compile β} {b : β} :
    ¬yields (((MonadExcept.throw e : Compile α) >>= f) s) (b, s') := by
  intro h
  obtain ⟨_, _, h, _⟩ := step_bind h
  exact not_step_throw h

/-- Reading a value among steps that may issue warnings. -/
theorem step_read' {x : Except CompileError α} {f : α → Write β} {b : β}
    (h : yields (((liftM x : Write α) >>= f) s) (b, s')) :
    ∃ a, x = .ok a ∧ yields (f a s) (b, s') := by
  cases x with
  | error e =>
    obtain ⟨issued, issued', h⟩ := h
    cases h
  | ok a => exact ⟨a, rfl, h⟩

end

end Yields

/-- If the step does not fail, it keeps the property `P` of the questions about references. -/
def Keeps {m : Type → Type} [Monad m] [Yields m] {α : Type} (P : Probes → Prop)
    (step : StateT Progress m α) : Prop :=
  ∀ s a s', Yields.yields (step s) (a, s') → P s.probes → P s'.probes

namespace Keeps

section

variable {m : Type → Type} [Monad m] [Yields m] {α β : Type} {P : Probes → Prop}

theorem pure (a : α) : Keeps P (Pure.pure a : StateT Progress m α) := by
  intro s b s' h hs
  cases Yields.yields_pure h
  exact hs

theorem bind {step : StateT Progress m α} {f : α → StateT Progress m β} (h : Keeps P step)
    (hf : ∀ a, Keeps P (f a)) : Keeps P (step >>= f) := by
  intro s b s' hb hs
  obtain ⟨a, s₁, ha, hb⟩ := Yields.step_bind hb
  exact hf a s₁ b s' hb (h s a s₁ ha hs)

theorem pure_bind {a : α} {f : α → StateT Progress m β} (h : Keeps P (f a)) :
    Keeps P (Pure.pure a >>= f) := by
  intro s b s' hb hs
  obtain ⟨_, _, ha, hb⟩ := Yields.step_bind hb
  cases Yields.yields_pure ha
  exact h s b s' hb hs

/-- Sequencing where the first step reads a value. -/
theorem bind_read {x : m α} {f : α → StateT Progress m β}
    (hf : ∀ a, Yields.yields x a → Keeps P (f a)) :
    Keeps P ((liftM x : StateT Progress m α) >>= f) := by
  intro s b s' hb hs
  obtain ⟨a, hx, hb⟩ := Yields.step_read hb
  exact hf a hx s b s' hb hs

theorem map {step : StateT Progress m α} (g : α → β) (h : Keeps P step) :
    Keeps P (g <$> step) := by
  intro s b s' hb hs
  obtain ⟨a, ha, _⟩ := Yields.step_map hb
  exact h s a s' ha hs

theorem ite {p : Prop} [Decidable p] {step step' : StateT Progress m α} (h : Keeps P step)
    (h' : Keeps P step') : Keeps P (if p then step else step') := by
  split
  · exact h
  · exact h'

/-- Each step of a sequence begins where the property holds. -/
theorem mapM_forall₂ [LawfulMonad m] {f : α → StateT Progress m β} {xs : List α} {ys : List β}
    {s s' : Progress} (h : ∀ x ∈ xs, Keeps P (f x)) (hs : P s.probes)
    (hxs : Yields.yields (xs.mapM f s) (ys, s')) :
    List.Forall₂ (fun x y => ∃ s₁ s₂, P s₁.probes ∧ Yields.yields (f x s₁) (y, s₂)) xs ys := by
  induction xs generalizing ys s with
  | nil =>
    cases Yields.yields_pure hxs
    exact .nil
  | cons x xs ih =>
    rw [List.mapM_cons] at hxs
    obtain ⟨⟨y, s₁⟩, hy, hxs⟩ := Yields.yields_bind hxs
    obtain ⟨⟨ys', s₂⟩, hys, hxs⟩ := Yields.yields_bind hxs
    cases Yields.yields_pure hxs
    have hs₁ := h x (by simp) s y s₁ hy hs
    exact .cons ⟨s, s₁, hs, hy⟩ (ih (fun x hx => h x (by simp [hx])) hs₁ hys)

theorem mapM [LawfulMonad m] {f : α → StateT Progress m β} {xs : List α}
    (h : ∀ x ∈ xs, Keeps P (f x)) : Keeps P (xs.mapM f) := by
  induction xs with
  | nil => exact .pure []
  | cons x xs ih =>
    rw [List.mapM_cons]
    refine .bind (h x (by simp)) fun y => .bind (ih fun x hx => h x (by simp [hx])) fun ys => ?_
    exact .pure (y :: ys)

end

variable {α : Type} {P : Probes → Prop}

theorem throw (e : CompileError) : Keeps P (MonadExcept.throw e : Compile α) :=
  fun _ _ _ h => absurd h Yields.not_step_throw

/-- Nothing comes after a failure. -/
theorem throw_bind {β : Type} (e : CompileError) (f : α → Compile β) :
    Keeps P ((MonadExcept.throw e : Compile α) >>= f) :=
  fun _ _ _ h => absurd h Yields.not_step_throw_bind

theorem fresh (hint : String) : Keeps P (Compile.fresh hint) := by
  intro s a s' h hs
  cases h
  exact hs

theorem use (change : Usage → Usage) : Keeps P (Compile.use change) := by
  intro s a s' h hs
  cases h
  exact hs

theorem runtime (symbol : String) : Keeps P (Compile.runtime symbol) :=
  .bind (.use _) fun _ => .pure _

theorem throwMalformed (location name message : String) :
    Keeps P (Compile.throwMalformed location name message) :=
  .bind (.runtime _) fun _ => .pure _

/-- A step that issues no warnings, among others that may. -/
theorem lift {step : Compile α} (h : Keeps P step) : Keeps P (liftM step : Write α) :=
  fun s a s' ha => h s a s' (Yields.step_lift ha)

/-- Reading a value among steps that may issue warnings. -/
theorem bind_read' {β : Type} {x : Except CompileError α} {f : α → Write β}
    (hf : ∀ a, x = .ok a → Keeps P (f a)) : Keeps P ((liftM x : Write α) >>= f) := by
  intro s b s' hb hs
  obtain ⟨a, hx, hb⟩ := Yields.step_read' hb
  exact hf a hx s b s' hb hs

end Keeps

/-- What is generated for a response that is declared: nothing by default, on the server, and nothing
for want of authentication; otherwise its status, its content and its headers are those declared. -/
theorem Document.responseCase?_cases {doc : Document} {o : ResolvedOperation} {side : Side}
    {name : String} {node : RefOr Response} {case? : Option ResponseCase}
    (h : Yields.yields (doc.responseCase? o side name node) case?) :
    (name = "default" ∧ side = .server ∧ case? = none) ∨
    ∃ status, name ≠ "default" ∧ Text.natural? Text.maxWord16 name = some status ∧
      ((status = 401 ∧ o.authenticated = true) ∧ case? = none ∨
      ¬(status = 401 ∧ o.authenticated = true) ∧ ∃ response headers,
        doc.deref .response node = .ok response ∧
        List.Forall₂ (fun declared header => header.1 = declared.1 ∧
          doc.deref .header declared.2 = .ok header.2) response.headers headers ∧
        case? = some { status, content := response.content, headers }) := by
  rcases Yields.ite h with ⟨hname, h⟩ | ⟨hname, h⟩
  · cases side with
    | client => obtain ⟨_, _, h⟩ := h; cases h
    | server =>
      obtain ⟨_, _, h⟩ := Yields.yields_bind h
      exact .inl ⟨hname, rfl, Yields.yields_pure h⟩
  split at h
  case h_2 => obtain ⟨_, _, h⟩ := h; cases h
  case h_1 status hstatus =>
    refine .inr ⟨status, hname, hstatus, ?_⟩
    rcases Yields.ite h with ⟨hrefused, h⟩ | ⟨hkept, h⟩
    · exact .inl ⟨by simpa using hrefused, Yields.yields_pure h⟩
    · obtain ⟨response, hresponse, h⟩ := Yields.yields_bind h
      obtain ⟨headers, hheaders, h⟩ := Yields.yields_bind h
      refine .inr ⟨by simpa using hkept, response, headers, Yields.lift hresponse, ?_,
        Yields.yields_pure h⟩
      refine (Yields.mapM_forall₂ hheaders).imp fun declared header hread => ?_
      obtain ⟨value, hvalue, hread⟩ := Yields.yields_bind hread
      cases Yields.yields_pure hread
      exact ⟨rfl, Yields.lift hvalue⟩

end OpenApi

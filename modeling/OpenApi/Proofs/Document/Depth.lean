import Mathlib.Order.Lattice
import OpenApi.Document.AllOf

/-!
Computations that follow schemas down to some depth. More depth changes nothing but that a
computation which was `tooDeep` may come to an end: `Deepens` relates a computation to the same one
with more depth, and is closed under sequencing.
-/

theorem Except.bind_eq_ok {ε α β : Type} {x : Except ε α} {f : α → Except ε β} {b : β} :
    x >>= f = .ok b ↔ ∃ a, x = .ok a ∧ f a = .ok b := by
  cases x with
  | error e => exact ⟨nofun, fun ⟨_, h, _⟩ => nomatch h⟩
  | ok a => exact ⟨fun h => ⟨a, rfl, h⟩, fun ⟨_, ha, hb⟩ => by cases ha; exact hb⟩

theorem Except.bind_eq_error {ε α β : Type} {x : Except ε α} {f : α → Except ε β} {e : ε} :
    x >>= f = .error e ↔ x = .error e ∨ ∃ a, x = .ok a ∧ f a = .error e := by
  cases x with
  | error e' => simp [Bind.bind, Except.bind]
  | ok a => simp [Bind.bind, Except.bind]

theorem Except.mapError_eq_ok {ε ε' α : Type} {x : Except ε α} {g : ε → ε'} {a : α} :
    x.mapError g = .ok a ↔ x = .ok a := by
  cases x <;> simp [Except.mapError]

theorem Except.eq_ok_of_any {ε α : Type} {x : Except ε α} {p : α → Bool}
    (h : x.toOption.any p = true) : ∃ a, x = .ok a ∧ p a = true := by
  cases x with
  | error e => cases h
  | ok a => exact ⟨a, rfl, h⟩

theorem Except.pair_eq_ok_of_any {ε α β : Type} {x : Except ε α × β} {p : α → Bool}
    (h : x.1.toOption.any p = true) : ∃ a, x = (.ok a, x.2) ∧ p a = true := by
  obtain ⟨a, ha, hp⟩ := Except.eq_ok_of_any h
  exact ⟨a, Prod.ext ha rfl, hp⟩

/-- What each step of a loop preserves holds at its end. -/
theorem Except.foldlM_preserves {ε β γ : Type} {f : β → γ → Except ε β} {inv : β → Prop}
    {cs : List γ} {b b' : β} (hf : ∀ b, ∀ c ∈ cs, ∀ b', inv b → f b c = .ok b' → inv b')
    (hb : inv b) (h : cs.foldlM f b = .ok b') : inv b' := by
  induction cs generalizing b with
  | nil => cases h; exact hb
  | cons c cs ih =>
    rw [List.foldlM_cons] at h
    obtain ⟨b₁, hc, h⟩ := Except.bind_eq_ok.1 h
    exact ih (fun b c hc => hf b c (by simp [hc])) (hf b c (by simp) b₁ hb hc) h

namespace OpenApi

/-- With more depth, `x` is `y`. -/
def Deepens {α : Type} (x y : Except CompileError α) : Prop := x = .error .tooDeep ∨ y = x

namespace Deepens

variable {α β γ : Type} {x y z : Except CompileError α}

theorem refl (x : Except CompileError α) : Deepens x x := .inr rfl

theorem tooDeep (y : Except CompileError α) : Deepens (.error .tooDeep) y := .inl rfl

theorem trans (h : Deepens x y) (h' : Deepens y z) : Deepens x z := by
  rcases h with h | rfl
  · exact .inl h
  · exact h'

theorem eq_of_ne (h : Deepens x y) (hx : x ≠ .error .tooDeep) : y = x := h.resolve_left hx

theorem ok {a : α} (h : Deepens (.ok a) y) : y = .ok a := h.eq_of_ne nofun

theorem bind {f g : α → Except CompileError β} (h : Deepens x y) (hf : ∀ a, Deepens (f a) (g a)) :
    Deepens (x >>= f) (y >>= g) := by
  rcases h with rfl | rfl
  · exact tooDeep _
  · cases y with
    | error e => exact refl _
    | ok a => exact hf a

theorem foldlM {f g : β → γ → Except CompileError β} (h : ∀ b c, Deepens (f b c) (g b c))
    (cs : List γ) (b : β) : Deepens (cs.foldlM f b) (cs.foldlM g b) := by
  induction cs generalizing b with
  | nil => exact refl _
  | cons c cs ih =>
    rw [List.foldlM_cons, List.foldlM_cons]
    exact (h b c).bind ih

/-- What one more level does not change stays the same at all deeper levels. -/
theorem of_le {f : Nat → Except CompileError α} (h : ∀ n, Deepens (f n) (f (n + 1))) {m n : Nat}
    (hle : m ≤ n) : Deepens (f m) (f n) := by
  induction hle with
  | refl => exact refl _
  | step _ ih => exact ih.trans (h _)

/-- The results that a computation has at two depths are the same. -/
theorem ok_unique {f : Nat → Except CompileError α} (h : ∀ n, Deepens (f n) (f (n + 1))) {m n : Nat}
    {a b : α} (ha : f m = .ok a) (hb : f n = .ok b) : a = b := by
  rcases Nat.le_total m n with hle | hle
  · have := of_le h hle
    rw [ha] at this
    simpa [this.ok] using hb
  · have := of_le h hle
    rw [hb] at this
    simpa [this.ok] using ha.symm

end Deepens

theorem bind_ne_tooDeep {α β : Type} {x : Except CompileError α} {f : α → Except CompileError β}
    (hx : x ≠ .error .tooDeep) (hf : ∀ a, f a ≠ .error .tooDeep) : x >>= f ≠ .error .tooDeep := by
  cases x with
  | error e => exact fun h => hx (by cases h; rfl)
  | ok a => exact hf a

theorem foldlM_ne_tooDeep {β γ : Type} {f : β → γ → Except CompileError β} {cs : List γ} {b : β}
    (hf : ∀ b c, f b c ≠ .error .tooDeep) : cs.foldlM f b ≠ .error .tooDeep := by
  induction cs generalizing b with
  | nil => exact nofun
  | cons c cs ih =>
    rw [List.foldlM_cons]
    exact bind_ne_tooDeep (hf b c) fun _ => ih

/-- The computation comes to an end, if it is given enough depth. -/
def Ends {α : Type} (f : Nat → Except CompileError α) : Prop := ∃ n, f n ≠ .error .tooDeep

namespace Ends

variable {α β γ : Type}

theorem of_ne {x : Except CompileError α} (h : x ≠ .error .tooDeep) : Ends fun _ => x := ⟨0, h⟩

/-- It stays at its end. -/
theorem ne_of_ge {f : Nat → Except CompileError α} (hf : ∀ n, Deepens (f n) (f (n + 1)))
    (h : Ends f) : ∃ n, ∀ m ≥ n, f m ≠ .error .tooDeep := by
  obtain ⟨n, hn⟩ := h
  refine ⟨n, fun m hm => ?_⟩
  rw [(Deepens.of_le hf hm).eq_of_ne hn]
  exact hn

theorem of_succ {f : Nat → Except CompileError α} (h : Ends fun n => f (n + 1)) : Ends f :=
  h.elim fun n hn => ⟨n + 1, hn⟩

theorem bind {f : Nat → Except CompileError α} {g : Nat → α → Except CompileError β}
    (hf : ∀ n, Deepens (f n) (f (n + 1))) (hg : ∀ a n, Deepens (g n a) (g (n + 1) a))
    (h : Ends f) (h' : ∀ n a, f n = .ok a → Ends fun n => g n a) : Ends fun n => f n >>= g n := by
  obtain ⟨m, hm⟩ := h
  cases hresult : f m with
  | error e =>
    rw [hresult] at hm
    refine ⟨m, ?_⟩
    show (f m >>= g m) ≠ _
    rw [hresult]
    exact fun h => hm (by cases h; rfl)
  | ok a =>
    obtain ⟨n, hn⟩ := h' m a hresult
    have hfmax : f (max m n) = .ok a := by
      have := Deepens.of_le hf (le_max_left m n)
      rw [hresult] at this
      exact this.ok
    have hgmax := (Deepens.of_le (hg a) (le_max_right m n)).eq_of_ne hn
    refine ⟨max m n, ?_⟩
    show (f (max m n) >>= g (max m n)) ≠ _
    rw [hfmax]
    show g (max m n) a ≠ _
    rw [hgmax]
    exact hn

/-- A loop comes to an end if each of its steps does, under an invariant of the loop. -/
theorem foldlM {f : Nat → β → γ → Except CompileError β} {inv : β → Prop} {cs : List γ} {b : β}
    (hf : ∀ b c n, Deepens (f n b c) (f (n + 1) b c))
    (hinv : ∀ n b b', ∀ c ∈ cs, inv b → f n b c = .ok b' → inv b')
    (h : ∀ b, ∀ c ∈ cs, inv b → Ends fun n => f n b c) (hb : inv b) :
    Ends fun n => cs.foldlM (f n) b := by
  induction cs generalizing b with
  | nil => exact of_ne nofun
  | cons c cs ih =>
    simp only [List.foldlM_cons]
    refine bind (hf b c) (fun b n => .foldlM (fun b c => hf b c n) cs b) (h b c (by simp) hb) ?_
    intro n b' hb'
    refine ih (fun n b b' c hc => hinv n b b' c (by simp [hc])) ?_ (hinv n b b' c (by simp) hb hb')
    exact fun b c hc => h b c (by simp [hc])

end Ends

/-- What each of several schemas needs some depth for has a depth that is enough for all. -/
theorem exists_depth {P : Schema → Nat → Prop} {xs : List Schema}
    (h : ∀ schema ∈ xs, ∃ n, ∀ depth ≥ n, P schema depth) :
    ∃ n, ∀ depth ≥ n, ∀ schema ∈ xs, P schema depth := by
  induction xs with
  | nil => exact ⟨0, by simp⟩
  | cons x xs ih =>
    obtain ⟨m, hm⟩ := h x (by simp)
    obtain ⟨n, hn⟩ := ih fun schema hmem => h schema (by simp [hmem])
    refine ⟨max m n, fun depth hdepth => List.forall_mem_cons.2 ⟨?_, ?_⟩⟩
    · exact hm depth (le_trans (le_max_left m n) hdepth)
    · exact hn depth (le_trans (le_max_right m n) hdepth)

namespace Document

theorem mergePart_deepens (doc : Document)
    {merge merge' : Merge → Keywords Schema → Except CompileError Merge}
    (h : ∀ m k, Deepens (merge m k) (merge' m k)) (m : Merge) (part : Schema) :
    Deepens (doc.mergePart merge m part) (doc.mergePart merge' m part) := by
  refine Deepens.bind (.refl _) fun m => .bind (.refl _) fun target => ?_
  cases target with
  | bool accepts => cases accepts <;> exact .refl _
  | inline k =>
    dsimp only
    split
    · exact h m k
    · exact .refl _

theorem merge_deepens (doc : Document) (depth : Nat) (m : Merge) (k : Keywords Schema) :
    Deepens (doc.merge depth m k) (doc.merge (depth + 1) m k) := by
  induction depth generalizing m k with
  | zero => exact .tooDeep _
  | succ depth ih =>
    exact .bind (.foldlM (doc.mergePart_deepens ih) k.allOf m) fun _ => .refl _

theorem mergeAllOf_deepens (doc : Document) (depth : Nat) (k : Keywords Schema) :
    Deepens (doc.mergeAllOf depth k) (doc.mergeAllOf (depth + 1) k) :=
  (doc.merge_deepens depth {} k).bind fun _ => .refl _

end Document

end OpenApi

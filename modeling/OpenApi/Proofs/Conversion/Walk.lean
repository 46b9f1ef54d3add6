import Mathlib.Data.List.Forall2
import OpenApi.Compiler.Conversion

/-!
Converting the schemas inside a schema. Whatever a compiler writes around them, it converts them one
after the other, and between two of them only the context changes: `Walk` is that sequence, and a
step that `Runs` along a list of schemas does such a walk and fails where the walk fails. The
predicate is closed under sequencing (`Runs.bind`), so the walk of a compiler is read off its text.
-/

namespace OpenApi

namespace Compile

variable {α β : Type}

@[simp] theorem pure_apply (a : α) (s : Progress) : (pure a : Compile α) s = .ok (a, s) := rfl

@[simp] theorem get_apply (s : Progress) : (get : Compile Progress) s = .ok (s, s) := rfl

@[simp] theorem throw_apply (e : CompileError) (s : Progress) :
    (throw e : Compile α) s = .error e := rfl

theorem bind_apply (m : Compile α) (f : α → Compile β) (s : Progress) :
    (m >>= f) s = match m s with
      | .ok (a, s') => f a s'
      | .error e => .error e := by
  show (m s >>= fun p => f p.1 p.2) = _
  cases m s <;> rfl

theorem bind_apply_of_ok {m : Compile α} {f : α → Compile β} {s s' : Progress} {a : α}
    (h : m s = .ok (a, s')) : (m >>= f) s = f a s' := by
  rw [bind_apply, h]

theorem bind_apply_of_error {m : Compile α} {f : α → Compile β} {s : Progress} {e : CompileError}
    (h : m s = .error e) : (m >>= f) s = .error e := by
  rw [bind_apply, h]

theorem bind_eq_ok {m : Compile α} {f : α → Compile β} {s s'' : Progress} {b : β} :
    (m >>= f) s = .ok (b, s'') ↔ ∃ a s', m s = .ok (a, s') ∧ f a s' = .ok (b, s'') := by
  rw [bind_apply]
  cases h : m s with
  | error e => simp
  | ok p => exact ⟨fun hf => ⟨p.1, p.2, rfl, hf⟩, fun ⟨_, _, hp, hf⟩ => by cases hp; exact hf⟩

@[simp] theorem liftM_apply_ok (a : α) (s : Progress) :
    (liftM (Except.ok a : Except CompileError α) : Compile α) s = .ok (a, s) := rfl

@[simp] theorem liftM_apply_error (e : CompileError) (s : Progress) :
    (liftM (Except.error e : Except CompileError α) : Compile α) s = .error e := rfl

@[simp] theorem fresh_apply (hint : String) (s : Progress) :
    fresh hint s = .ok (hint ++ "_" ++ toString s.context.next,
      { s with context := { s.context with next := s.context.next + 1 } }) := rfl

@[simp] theorem use_apply (change : Usage → Usage) (s : Progress) :
    use change s = .ok ((), { s with
      context := { s.context with usage := change s.context.usage } }) := rfl

end Compile

/-- Converting schemas in order, each from some context: either one of them fails, or all have an
answer, of which only counts whether there is something to convert. -/
inductive Walk (convert : Convert) :
    List Schema → Progress → Except CompileError (List Bool × Progress) → Prop
  | nil {s : Progress} (ctx : Context) : Walk convert [] s (.ok ([], { s with context := ctx }))
  | failed {schema : Schema} {rest : List Schema} {value : Code} {s : Progress} {e : CompileError}
      (ctx : Context) (h : convert schema value { s with context := ctx } = .error e) :
      Walk convert (schema :: rest) s (.error e)
  | step {schema : Schema} {rest : List Schema} {value : Code} {s s' : Progress}
      {converted : Option Code} {w : Except CompileError (List Bool × Progress)} (ctx : Context)
      (h : convert schema value { s with context := ctx } = .ok (converted, s'))
      (more : Walk convert rest s' w) :
      Walk convert (schema :: rest) s (w.map fun p => (converted.isSome :: p.1, p.2))

namespace Walk

variable {convert : Convert} {inner more : List Schema} {s s' : Progress} {ctx : Context}
  {e : CompileError} {answers : List Bool} {w : Except CompileError (List Bool × Progress)}

/-- The context a walk begins in does not matter. -/
theorem of_context (h : Walk convert inner { s with context := ctx } w) : Walk convert inner s w := by
  cases h with
  | nil ctx => exact nil ctx
  | failed ctx h => exact failed ctx h
  | step ctx h more => exact step ctx h more

/-- A walk along no schemas changes nothing but the context. -/
theorem eq_of_nil (h : Walk convert [] s w) : ∃ ctx, w = .ok ([], { s with context := ctx }) := by
  cases h with
  | nil ctx => exact ⟨ctx, rfl⟩

/-- A walk to the end converts the first schema and goes on along the rest. -/
theorem ok_of_cons {first : Schema} (h : Walk convert (first :: inner) s (.ok (answers, s'))) :
    ∃ value ctx converted s₁ answers₁,
      convert first value { s with context := ctx } = .ok (converted, s₁) ∧
      Walk convert inner s₁ (.ok (answers₁, s')) ∧ answers = converted.isSome :: answers₁ := by
  generalize hw : (Except.ok (answers, s') : Except CompileError (List Bool × Progress)) = w at h
  cases h with
  | failed => cases hw
  | @step _ _ value _ s₁ converted w' ctx h more =>
    cases w' with
    | error e => cases hw
    | ok p => cases hw; exact ⟨value, ctx, converted, s₁, p.1, h, more, rfl⟩

/-- A walk that fails does so at the first schema, or after it along the rest. -/
theorem error_of_cons {first : Schema} (h : Walk convert (first :: inner) s (.error e)) :
    (∃ value ctx, convert first value { s with context := ctx } = .error e) ∨
    ∃ value ctx converted s₁,
      convert first value { s with context := ctx } = .ok (converted, s₁) ∧
      Walk convert inner s₁ (.error e) := by
  generalize hw : (Except.error e : Except CompileError (List Bool × Progress)) = w at h
  cases h with
  | @failed _ _ value _ _ ctx h => cases hw; exact .inl ⟨value, ctx, h⟩
  | @step _ _ value _ s₁ converted w' ctx h more =>
    cases w' with
    | error e' => cases hw; exact .inr ⟨value, ctx, converted, s₁, h, more⟩
    | ok p => cases hw

theorem append_failed (h : Walk convert inner s (.error e)) :
    Walk convert (inner ++ more) s (.error e) := by
  induction inner generalizing s with
  | nil => cases h
  | cons first inner ih =>
    rcases h.error_of_cons with ⟨value, ctx, hfirst⟩ | ⟨value, ctx, converted, s₁, hfirst, rest⟩
    · exact failed ctx hfirst
    · exact step ctx hfirst (ih rest)

theorem append (h : Walk convert inner s (.ok (answers, s'))) (h' : Walk convert more s' w) :
    Walk convert (inner ++ more) s (w.map fun p => (answers ++ p.1, p.2)) := by
  induction inner generalizing s answers with
  | nil =>
    obtain ⟨ctx, h⟩ := h.eq_of_nil
    cases h
    have : w.map (fun p : List Bool × Progress => ([] ++ p.1, p.2)) = w := by cases w <;> rfl
    rw [this]
    exact of_context h'
  | cons first inner ih =>
    obtain ⟨value, ctx, converted, s₁, answers₁, hfirst, rest, rfl⟩ := h.ok_of_cons
    have := step ctx hfirst (ih rest)
    cases w with
    | error e => exact this
    | ok p => exact this

/-- A walk to the end has an answer for each schema. -/
theorem forall₂ {P : Schema → Bool → Prop}
    (hconvert : ∀ schema value s r s', convert schema value s = .ok (r, s') → P schema r.isSome)
    (h : Walk convert inner s (.ok (answers, s'))) : List.Forall₂ P inner answers := by
  induction inner generalizing s answers with
  | nil =>
    obtain ⟨ctx, h⟩ := h.eq_of_nil
    cases h
    exact .nil
  | cons first inner ih =>
    obtain ⟨value, ctx, converted, s₁, answers₁, hfirst, rest, rfl⟩ := h.ok_of_cons
    exact .cons (hconvert _ _ _ _ _ hfirst) (ih rest)

/-- A walk fails where one of the conversions fails, after those before it have not. -/
theorem split_error (h : Walk convert inner s (.error e)) :
    ∃ before schema after answers s' value ctx, inner = before ++ schema :: after ∧
      Walk convert before s (.ok (answers, s')) ∧
      convert schema value { s' with context := ctx } = .error e := by
  induction inner generalizing s with
  | nil => cases h
  | cons first inner ih =>
    rcases h.error_of_cons with ⟨value, ctx, hfirst⟩ | ⟨value, ctx, converted, s₁, hfirst, rest⟩
    · exact ⟨[], first, inner, [], s, value, ctx, rfl, .nil s.context, hfirst⟩
    · obtain ⟨before, schema, after, _, s', value', ctx', rfl, hbefore, he⟩ := ih rest
      exact ⟨first :: before, schema, after, _, s', value', ctx', rfl, .step ctx hfirst hbefore, he⟩

/-- A walk fails with `e` if one of the conversions does and those before it do not fail with
anything else, where `inv` is what they preserve. -/
theorem error_of_before {inv : Progress → Prop} {before after : List Schema} {schema : Schema}
    (hctx : ∀ s ctx, inv s → inv { s with context := ctx })
    (hbefore : ∀ x ∈ before, ∀ value s, inv s → convert x value s = .error e ∨
      ∃ r s', convert x value s = .ok (r, s') ∧ inv s')
    (hschema : ∀ value s, inv s → convert schema value s = .error e) (hs : inv s)
    (h : Walk convert (before ++ schema :: after) s w) : w = .error e := by
  induction before generalizing s w with
  | nil =>
    cases h with
    | failed ctx h => rw [hschema _ _ (hctx s ctx hs)] at h; cases h; rfl
    | step ctx h => rw [hschema _ _ (hctx s ctx hs)] at h; cases h
  | cons first before ih =>
    have hfirst := hbefore first (by simp)
    cases h with
    | @failed _ _ value _ _ ctx h =>
      rcases hfirst value _ (hctx s ctx hs) with he | ⟨r, s', hr, _⟩
      · rw [he] at h; cases h; rfl
      · rw [hr] at h; cases h
    | @step _ _ value _ _ _ w' ctx h more =>
      rcases hfirst value _ (hctx s ctx hs) with he | ⟨r, s', hr, hs'⟩
      · rw [he] at h; cases h
      · rw [hr] at h
        cases h
        rw [ih (fun x hx => hbefore x (by simp [hx])) hs' more]
        rfl

end Walk

/-- The step converts the schemas `inner` in order and fails where one of these conversions fails.
It does not fail otherwise, changes nothing else but the context, and its result is related to their
answers by `post`. -/
def Runs {α : Type} (convert : Convert) (m : Compile α) (inner : List Schema)
    (post : List Bool → α → Prop) : Prop :=
  ∀ s, (∃ e, Walk convert inner s (.error e) ∧ m s = .error e) ∨
    ∃ answers s' a ctx, Walk convert inner s (.ok (answers, s')) ∧
      m s = .ok (a, { s' with context := ctx }) ∧ post answers a

namespace Runs

variable {α β : Type} {convert : Convert} {m : Compile α} {inner more : List Schema}
  {post : List Bool → α → Prop}

/-- A step that changes the context only. -/
theorem of_local (h : ∀ s : Progress, ∃ a ctx, m s = .ok (a, { s with context := ctx }) ∧ post [] a) :
    Runs convert m [] post := by
  intro s
  obtain ⟨a, ctx, hm, hp⟩ := h s
  exact .inr ⟨[], s, a, ctx, .nil s.context, hm, hp⟩

theorem pure {a : α} (h : post [] a) : Runs convert (pure a) [] post :=
  of_local fun s => ⟨a, s.context, rfl, h⟩

/-- A step that reads a value. -/
theorem lift (a : α) :
    Runs convert (liftM (Except.ok a : Except CompileError α) : Compile α) [] fun _ b => b = a :=
  of_local fun s => ⟨a, s.context, rfl, rfl⟩

theorem fresh (hint : String) : Runs convert (Compile.fresh hint) [] fun _ _ => True :=
  of_local fun _ => ⟨_, _, rfl, trivial⟩

theorem use (change : Usage → Usage) : Runs convert (Compile.use change) [] fun _ _ => True :=
  of_local fun _ => ⟨_, _, rfl, trivial⟩

theorem throwMalformed (location name message : String) :
    Runs convert (Compile.throwMalformed location name message) [] fun _ _ => True :=
  of_local fun _ => ⟨_, _, rfl, trivial⟩

theorem convert_one (schema : Schema) (value : Code) :
    Runs convert (convert schema value) [schema] fun answers r => answers = [r.isSome] := by
  intro s
  cases h : convert schema value s with
  | error e => exact .inl ⟨e, .failed s.context h, rfl⟩
  | ok p =>
    obtain ⟨r, s'⟩ := p
    exact .inr ⟨[r.isSome], s', r, s'.context, .step s.context h (.nil s'.context), rfl, rfl⟩

theorem mono {post' : List Bool → α → Prop} (h : Runs convert m inner post)
    (hp : ∀ answers a, post answers a → post' answers a) : Runs convert m inner post' := by
  intro s
  rcases h s with he | ⟨answers, s', a, ctx, hw, hm, hpost⟩
  · exact .inl he
  · exact .inr ⟨answers, s', a, ctx, hw, hm, hp answers a hpost⟩

theorem bind {f : α → Compile β} {post' : List Bool → β → Prop} (hm : Runs convert m inner post)
    (hf : ∀ answers a, post answers a →
      Runs convert (f a) more fun answers' b => post' (answers ++ answers') b) :
    Runs convert (m >>= f) (inner ++ more) post' := by
  intro s
  rcases hm s with ⟨e, hw, he⟩ | ⟨answers, s', a, ctx, hw, ha, hpost⟩
  · exact .inl ⟨e, hw.append_failed, Compile.bind_apply_of_error he⟩
  · rcases hf answers a hpost { s' with context := ctx } with
      ⟨e, hw', he⟩ | ⟨answers', s'', b, ctx', hw', hb, hpost'⟩
    · exact .inl ⟨e, hw.append hw'.of_context, by rw [Compile.bind_apply_of_ok ha, he]⟩
    · refine .inr ⟨answers ++ answers', s'', b, ctx', hw.append hw'.of_context, ?_, hpost'⟩
      rw [Compile.bind_apply_of_ok ha, hb]

/-- A step that converts nothing has no answers. -/
theorem no_answers (hm : Runs convert m [] post) :
    Runs convert m [] fun answers a => answers = [] ∧ post [] a := by
  intro s
  rcases hm s with ⟨e, hw, _⟩ | ⟨answers, s', a, ctx, hw, ha, hpost⟩
  · cases hw
  · obtain ⟨ctx', h⟩ := hw.eq_of_nil
    cases h
    exact .inr ⟨[], _, a, ctx, .nil s.context, ha, rfl, hpost⟩

/-- Sequencing where the first step converts nothing. -/
theorem bind_local {f : α → Compile β} {post' : List Bool → β → Prop}
    (hm : Runs convert m [] post) (hf : ∀ a, post [] a → Runs convert (f a) more post') :
    Runs convert (m >>= f) more post' := by
  refine bind hm.no_answers ?_
  rintro answers a ⟨rfl, hpost⟩
  exact hf a hpost

/-- Sequencing where the second step converts nothing. -/
theorem bind_last {f : α → Compile β} {post' : List Bool → β → Prop}
    (hm : Runs convert m inner post)
    (hf : ∀ answers a, post answers a → Runs convert (f a) [] fun _ b => post' answers b) :
    Runs convert (m >>= f) inner post' := by
  rw [← List.append_nil inner]
  refine bind hm fun answers a hpost => ((hf answers a hpost).no_answers).mono ?_
  rintro _ b ⟨rfl, hpost'⟩
  simpa using hpost'

end Runs

/-- What holds of each way to convert the keywords of a schema, of a failure and of a conversion that
has nothing to do, holds of the conversion for any keywords. -/
theorem Compiler.convertKeywords_cases {c : Compiler} {d : Direction} {depth : Nat}
    {convert : Convert} {k : Keywords Schema} {value : Code}
    {motive : Compile (Option Code) → Prop}
    (object : ∀ k, motive (convertObject convert k value))
    (array : motive (convertArray convert k.items value))
    (string : motive (c.convertString d k value))
    (discriminated : ∀ discriminator,
      motive (convertDiscriminated convert k.unionBranches discriminator value))
    (union : motive (c.convertUnion d convert k.unionBranches value))
    (failed : ∀ e, motive (throw e)) (unchanged : motive (pure none)) :
    motive (c.convertKeywords d depth convert k value) := by
  unfold convertKeywords
  split
  · -- whether there are merged keywords or not is known before anything is written
    cases c.document.mergeAllOf depth k with
    | error e => exact failed e
    | ok merged => exact object merged
  split
  · split
    · exact discriminated _
    · exact union
  split
  case h_1 => exact string
  case h_2 => exact array
  case h_3 => exact object k
  case h_4 => exact failed _
  case h_5 => exact unchanged
  case h_6 =>
    split
    · exact object k
    split
    · exact array
    split
    · exact string
    · exact unchanged

end OpenApi

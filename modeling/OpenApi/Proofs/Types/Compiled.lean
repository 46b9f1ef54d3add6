import OpenApi.Proofs.Conversion.Walk
import OpenApi.Proofs.Types.Parts

/-!
The type of a schema hangs on the document and the formats alone, and not on what has been written before
it.
-/

namespace OpenApi

/-- Wherever the step starts, it has the same result, or it fails in the same way. -/
def Steady {α : Type} (step : Compile α) : Prop :=
  ∀ s s', (step s).map Prod.fst = (step s').map Prod.fst

namespace Steady

variable {α β : Type}

theorem pure (a : α) : Steady (Pure.pure a : Compile α) := fun _ _ => rfl

theorem throw (e : CompileError) : Steady (MonadExcept.throw e : Compile α) := fun _ _ => rfl

theorem bind {step : Compile α} {f : α → Compile β} (h : Steady step) (hf : ∀ a, Steady (f a)) :
    Steady (step >>= f) := by
  intro s s'
  have heq := h s s'
  change Except.map Prod.fst (step s >>= fun result => f result.1 result.2) =
    Except.map Prod.fst (step s' >>= fun result => f result.1 result.2)
  rcases hs : step s with e | ⟨a, s₁⟩ <;> rcases hs' : step s' with e' | ⟨a', s₁'⟩ <;>
    rw [hs, hs'] at heq <;> cases heq
  · rfl
  · exact hf a s₁ s₁'

theorem read (x : Except CompileError α) : Steady (liftM x : Compile α) := by
  cases x <;> exact fun _ _ => rfl

theorem use (change : Usage → Usage) : Steady (Compile.use change) := fun _ _ => rfl

theorem map (g : α → β) {step : Compile α} (h : Steady step) : Steady (g <$> step) := by
  rw [map_eq_pure_bind]
  exact h.bind fun a => pure (g a)

theorem mapM {f : β → Compile α} {xs : List β} (h : ∀ x ∈ xs, Steady (f x)) : Steady (xs.mapM f) := by
  induction xs with
  | nil => exact pure []
  | cons x xs ih =>
    rw [List.mapM_cons]
    exact (h x (by simp)).bind fun y => (ih fun x hx => h x (by simp [hx])).bind fun ys => pure (y :: ys)

theorem eq_ok {step : Compile α} (h : Steady step) {a : α} {s s' : Progress}
    (hs : step s = .ok (a, s')) (t : Progress) : ∃ t', step t = .ok (a, t') := by
  have heq := h t s
  rw [hs] at heq
  rcases ht : step t with e | ⟨a', t'⟩ <;> rw [ht] at heq <;> cases heq
  exact ⟨t', rfl⟩

end Steady

namespace Compiler

variable {c : Compiler}

theorem typeName_steady (reference : String) : Steady (c.typeName reference) := by
  refine .bind (.read _) fun name => ?_
  unfold qualify
  split
  · exact .pure _
  · exact .bind (.use _) fun _ => .pure _

theorem stringType_steady (k : Keywords Schema) : Steady (c.stringType k) := by
  unfold stringType
  split
  · exact .pure _
  · exact .bind (.read _) fun format => .bind (.use _) fun _ => .pure _

theorem arrayType_steady {items : Option (Compile Code)} (h : ∀ type ∈ items, Steady type) :
    Steady (arrayType items) := by
  cases items with
  | none => exact .pure _
  | some type => exact .bind (h type rfl) fun _ => .pure _

theorem objectType_steady {k : Keywords (Compile Code)} (h : ∀ type ∈ k.memberSchemas, Steady type) :
    Steady (objectType k) := by
  refine .bind (.mapM fun ⟨name, type⟩ hmem => ?_) fun fields => ?_
  · exact .bind (h type (Keywords.mem_memberSchemas.2 (.inl ⟨name, hmem⟩))) fun _ => .pure _
  split
  case h_2 type hfurther =>
    exact .bind (.map _ (h type (Keywords.mem_memberSchemas.2 (.inr hfurther)))) fun _ => .pure _
  all_goals exact .bind (.pure _) fun _ => .pure _

theorem keywordsType_steady (k : Keywords Schema) {parts : Keywords (Compile Code)}
    (h : ∀ type ∈ parts.children, Steady type) : Steady (c.keywordsType k parts) := by
  have object : Steady (objectType parts) :=
    objectType_steady fun type ht => h type (Keywords.mem_children.2 (.inl ht))
  have array : Steady (arrayType parts.items) :=
    arrayType_steady fun type ht => h type (Keywords.mem_children.2 (.inr (.inl ht)))
  refine keywordsType_cases (motive := fun step => Steady step) ?_ (fun branches hbranches => ?_)
    (.pure _) (fun _ => .pure _) (fun _ _ => .pure _) (stringType_steady k) array object .throw
  · refine .bind (.mapM fun type ht => h type (Keywords.allOf_subset_children ht)) fun members => ?_
    split
    · exact .bind (.pure _) fun _ => .pure _
    · exact .bind (.map _ object) fun _ => .pure _
  · exact .bind (.mapM fun type ht => h type (Keywords.union_subset_children hbranches ht))
      fun _ => .pure _

theorem schemaType_steady (schema : Schema) : Steady (c.schemaType schema) :=
  Schema.fold_preserves (motive := fun step => Steady step)
    (fun target => .bind (typeName_steady target) fun _ => .pure _) (fun _ => .pure _)
    (fun k _ h => .bind (keywordsType_steady k h) fun _ => .pure _) schema

/-- The type of a schema, if it has one. -/
def compiledType (c : Compiler) (schema : Schema) : Code :=
  (((c.schemaType schema {}).map Prod.fst).toOption).getD Code.empty

/-- It is the type that is written for the schema, wherever that is. -/
theorem compiledType_eq {schema : Schema} {type : Code} {s s' : Progress}
    (h : c.schemaType schema s = .ok (type, s')) : c.compiledType schema = type := by
  rw [compiledType, schemaType_steady schema {} s, h]
  rfl

end Compiler

end OpenApi

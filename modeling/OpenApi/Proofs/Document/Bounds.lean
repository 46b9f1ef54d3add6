import Mathlib.Algebra.Group.Action.Defs
import Mathlib.Algebra.Order.BigOperators.Group.List
import Mathlib.Algebra.Order.Ring.Nat
import Mathlib.Tactic.Linarith
import OpenApi.Proofs.Document.Ends
import OpenApi.Proofs.Schema.Size

/-!
How deep is deep enough. The schemas that a schema and the references in it lead to are no more than
the document and the schema are large (`Document.card_nearFinset_le`), and a merge goes down no further
than their number allows, so that it comes to an end at the depth that compilers follow schemas to
(`Compiler.mergeAllOf_ne_tooDeep`).
-/

namespace OpenApi

theorem Except.foldlM_ne_error {ε β γ : Type} {f : β → γ → Except ε β} {e : ε} {cs : List γ} {b : β}
    (inv : β → Prop) (hf : ∀ b, ∀ c ∈ cs, inv b → f b c ≠ .error e)
    (hkeep : ∀ b, ∀ c ∈ cs, ∀ b', inv b → f b c = .ok b' → inv b') (hb : inv b) :
    cs.foldlM f b ≠ .error e := by
  induction cs generalizing b with
  | nil => exact nofun
  | cons c cs ih =>
    rw [List.foldlM_cons]
    intro h
    rcases Except.bind_eq_error.1 h with h | ⟨b', hb', h⟩
    · exact hf b c (by simp) hb h
    · exact ih (fun b c hc => hf b c (by simp [hc])) (fun b c hc => hkeep b c (by simp [hc]))
        (hkeep b c (by simp) b' hb hb') h

/-! ## How many schemas there are -/

namespace Json

mutual

theorem size_le_of_mem_values {v : Json} : ∀ {value : Json}, v ∈ value.values → v.size ≤ value.size
  | .null, h => by cases List.mem_singleton.1 h; exact le_rfl
  | .bool _, h => by cases List.mem_singleton.1 h; exact le_rfl
  | .number _, h => by cases List.mem_singleton.1 h; exact le_rfl
  | .string _, h => by cases List.mem_singleton.1 h; exact le_rfl
  | .array items, h => by
    rcases List.mem_cons.1 h with rfl | h
    · exact le_rfl
    · exact (size_le_of_mem_itemValues h).trans (Nat.le_succ _)
  | .object members, h => by
    rcases List.mem_cons.1 h with rfl | h
    · exact le_rfl
    · exact (size_le_of_mem_memberValues h).trans (Nat.le_succ _)

theorem size_le_of_mem_itemValues {v : Json} :
    ∀ {items : List Json}, v ∈ itemValues items → v.size ≤ sizeItems items
  | [], h => by cases h
  | item :: rest, h => by
    rw [sizeItems]
    rcases List.mem_append.1 h with h | h
    · exact (size_le_of_mem_values h).trans (Nat.le_add_right _ _)
    · exact (size_le_of_mem_itemValues h).trans (Nat.le_add_left _ _)

theorem size_le_of_mem_memberValues {v : Json} :
    ∀ {members : List (String × Json)}, v ∈ memberValues members → v.size ≤ sizeMembers members
  | [], h => by cases h
  | (_, value) :: rest, h => by
    rw [sizeMembers]
    rcases List.mem_append.1 h with h | h
    · exact (size_le_of_mem_values h).trans (Nat.le_add_right _ _)
    · exact (size_le_of_mem_memberValues h).trans (Nat.le_add_left _ _)

end

end Json

/-- The schemas that stand in what a value is read as. -/
def Schema.partsRead (value : Json) : List Schema :=
  match Schema.decode value with
  | .ok t => t.parts
  | .error _ => []

theorem Schema.length_partsRead_le (value : Json) : (partsRead value).length ≤ value.size := by
  unfold partsRead
  cases h : Schema.decode value with
  | ok t => exact length_parts_le h
  | error e => exact Nat.zero_le _

namespace Document

variable {doc : Document}

/-- The schemas near the given one, with repetition. -/
def nearList (doc : Document) (schema : Schema) : List Schema :=
  .bool true :: (schema.parts ++ doc.raw.values.flatMap Schema.partsRead)

theorem mem_nearList {schema x : Schema} (h : x ∈ doc.near schema) : x ∈ doc.nearList schema := by
  rcases h with rfl | h | ⟨value, hvalue, t, ht, h⟩
  · exact List.mem_cons_self
  · exact List.mem_cons_of_mem _ (List.mem_append_left _ (Schema.mem_parts.2 h))
  · refine List.mem_cons_of_mem _ (List.mem_append_right _ (List.mem_flatMap.2 ⟨value, hvalue, ?_⟩))
    rw [Schema.partsRead, ht]
    exact Schema.mem_parts.2 h

theorem length_nearList_le (doc : Document) (schema : Schema) : (doc.nearList schema).length ≤
    doc.raw.size * doc.raw.size + schema.encode.size + 1 := by
  have hparts := schema.length_parts_le_encode
  have hvalues : (doc.raw.values.flatMap Schema.partsRead).length ≤ doc.raw.size * doc.raw.size := by
    have heach : ∀ n ∈ doc.raw.values.map fun value => (Schema.partsRead value).length,
        n ≤ doc.raw.size := by
      intro n hn
      obtain ⟨value, hvalue, rfl⟩ := List.mem_map.1 hn
      exact (Schema.length_partsRead_le value).trans (Json.size_le_of_mem_values hvalue)
    have hsum := List.sum_le_card_nsmul _ _ heach
    rwa [List.length_map, doc.raw.length_values, smul_eq_mul, ← List.length_flatMap] at hsum
  rw [nearList, List.length_cons, List.length_append]
  omega

/-- The schemas near the given one. -/
noncomputable def nearFinset (doc : Document) (schema : Schema) : Finset Schema :=
  (doc.near_finite schema).toFinset

theorem mem_nearFinset {schema x : Schema} : x ∈ doc.nearFinset schema ↔ x ∈ doc.near schema :=
  Set.Finite.mem_toFinset _

theorem nearFinset_closed (doc : Document) (schema : Schema) : doc.Closed ↑(doc.nearFinset schema) := by
  rw [nearFinset, Set.Finite.coe_toFinset]
  exact doc.near_closed schema

theorem card_nearFinset_le (doc : Document) (schema : Schema) : (doc.nearFinset schema).card ≤
    doc.raw.size * doc.raw.size + schema.encode.size + 1 := by
  classical
  refine le_trans (Finset.card_le_card (t := (doc.nearList schema).toFinset) fun x hx => ?_)
    ((List.toFinset_card_le _).trans (doc.length_nearList_le schema))
  exact List.mem_toFinset.2 (mem_nearList (mem_nearFinset.1 hx))

/-! ## How deep a merge goes -/

/-- The references among schemas. -/
noncomputable def refsOf (schemas : Finset Schema) : Finset String :=
  (finite_refs schemas.finite_toSet).toFinset

theorem mem_refsOf {schemas : Finset Schema} {r : String} : r ∈ refsOf schemas ↔ .ref r ∈ schemas := by
  simp [refsOf]

theorem card_refsOf_le (schemas : Finset Schema) : (refsOf schemas).card ≤ schemas.card :=
  Finset.card_le_card_of_injOn Schema.ref (fun _ hr => mem_refsOf.1 hr)
    fun _ _ _ _ h => Schema.ref.inj h

/-- How many of the schemas are smaller than the given one. -/
noncomputable def rank (schemas : Finset Schema) (x : Schema) : Nat :=
  (schemas.filter fun y => sizeOf y < sizeOf x).card

theorem rank_lt_rank {schemas : Finset Schema} {x y : Schema} (hy : y ∈ schemas)
    (h : sizeOf y < sizeOf x) : rank schemas y < rank schemas x := by
  refine Finset.card_lt_card (Finset.ssubset_iff_subset_ne.2 ⟨fun z hz => ?_, fun heq => ?_⟩)
  · obtain ⟨hz, hlt⟩ := Finset.mem_filter.1 hz
    exact Finset.mem_filter.2 ⟨hz, hlt.trans h⟩
  · have hmem : y ∈ schemas.filter fun z => sizeOf z < sizeOf x := Finset.mem_filter.2 ⟨hy, h⟩
    rw [← heq] at hmem
    exact lt_irrefl _ (Finset.mem_filter.1 hmem).2

theorem rank_le_card (schemas : Finset Schema) (x : Schema) : rank schemas x ≤ schemas.card :=
  Finset.card_filter_le _ _

theorem mergePart_eq_tooDeep {merge : Merge → Keywords Schema → Except CompileError Merge} {m : Merge}
    {part : Schema} (h : doc.mergePart merge m part = .error .tooDeep) :
    ∃ m₁ k, m.meet part = .ok m₁ ∧ doc.deref .schema part = .ok (.inline k) ∧
      merge m₁ k = .error .tooDeep := by
  rcases Except.bind_eq_error.1 h with h | ⟨m₁, hmeet, h⟩
  · exact absurd h meet_ne_tooDeep
  rcases Except.bind_eq_error.1 h with h | ⟨target, htarget, h⟩
  · exact absurd h (deref_ne_tooDeep doc .schema part)
  rcases target with (_ | _) | k
  · cases h
  · cases h
  · dsimp only at h
    split at h
    · exact ⟨m₁, k, hmeet, htarget, h⟩
    · cases h

/-- After a reference has been met there are fewer to meet, and without one there are fewer schemas that
are smaller; so a merge does not go down further than there are schemas, for each reference. -/
theorem merge_ne_tooDeep {schemas : Finset Schema} (hclosed : doc.Closed ↑schemas) {depth : Nat}
    {m : Merge} {k : Keywords Schema} (hk : .inline k ∈ schemas)
    (hdepth : (unmet (refsOf schemas) m).card * (schemas.card + 1) + rank schemas (.inline k) < depth) :
    doc.merge depth m k ≠ .error .tooDeep := by
  induction depth generalizing m k with
  | zero => exact absurd hdepth (Nat.not_lt_zero _)
  | succ depth ih =>
    intro h
    rcases Except.bind_eq_error.1 h with h | ⟨_, _, h⟩
    · refine Except.foldlM_ne_error (fun m' => m.seen ⊆ m'.seen) (fun m' part hpart hm' h => ?_)
        (fun m' part _ m'' hm' h => List.Subset.trans hm' (mergePart_seen h)) (List.Subset.refl _) h
      obtain ⟨m₁, k', hmeet, hderef, hinside⟩ := mergePart_eq_tooDeep h
      have hpartB : part ∈ (schemas : Set Schema) :=
        hclosed.child hk (Keywords.allOf_subset_children hpart)
      have hcard := card_unmet_le (R := refsOf schemas) hm'
      have hrank := rank_le_card schemas (.inline k')
      -- A reference leaves fewer to meet, and anything else is a smaller schema.
      rcases meet_eq_ok hmeet with ⟨r, rfl, hnew, rfl⟩ | ⟨hno, rfl⟩
      · refine ih (hclosed.deref hpartB hderef) ?_ hinside
        have hlt := (card_unmet_lt (mem_refsOf.2 hpartB) hnew).trans_le hcard
        have := Nat.mul_le_mul_right (schemas.card + 1) (Nat.succ_le_of_lt hlt)
        rw [Nat.succ_mul] at this
        omega
      · cases part with
        | ref r => exact absurd rfl (hno r)
        | bool accepts => cases hderef
        | inline k'' =>
          cases hderef
          refine ih hpartB ?_ hinside
          have := rank_lt_rank hpartB (Keywords.sizeOf_lt_of_mem_children
            (Keywords.allOf_subset_children hpart))
          have := Nat.mul_le_mul_right (schemas.card + 1) hcard
          omega
    · cases h

theorem mergeAllOf_ne_tooDeep {schema : Schema} {k : Keywords Schema} {depth : Nat}
    (hk : .inline k ∈ doc.near schema)
    (hdepth : ((doc.nearFinset schema).card + 1) * ((doc.nearFinset schema).card + 1) ≤ depth) :
    doc.mergeAllOf depth k ≠ .error .tooDeep := by
  intro h
  rcases Except.bind_eq_error.1 h with h | ⟨_, _, h⟩
  · refine merge_ne_tooDeep (doc.nearFinset_closed schema) (mem_nearFinset.2 hk) ?_ h
    have hunmet : (unmet (refsOf (doc.nearFinset schema)) {}).card ≤ (doc.nearFinset schema).card :=
      (Finset.card_filter_le _ _).trans (card_refsOf_le _)
    have hrank := rank_le_card (doc.nearFinset schema) (.inline k)
    have := Nat.mul_le_mul_right ((doc.nearFinset schema).card + 1) hunmet
    rw [Nat.succ_mul] at hdepth
    omega
  · cases h

end Document

namespace Compiler

/-- Compilers follow schemas down to a depth that is more than enough. -/
theorem card_near_le_depth (c : Compiler) (schema : Schema) :
    ((c.document.nearFinset schema).card + 2) ^ 4 ≤ c.depth schema := by
  have hcard := c.document.card_nearFinset_le schema
  have hsquare : (c.document.nearFinset schema).card + 2 ≤
      (c.document.raw.size + schema.encode.size + 2) ^ 2 := by
    refine (Nat.add_le_add_right hcard 2).trans ?_
    nlinarith [Nat.zero_le c.document.raw.size, Nat.zero_le schema.encode.size]
  calc ((c.document.nearFinset schema).card + 2) ^ 4
      ≤ ((c.document.raw.size + schema.encode.size + 2) ^ 2) ^ 4 := Nat.pow_le_pow_left hsquare 4
    _ = c.depth schema := (Nat.pow_mul _ 2 4).symm

theorem mergeAllOf_ne_tooDeep (c : Compiler) {schema : Schema} {k : Keywords Schema} {depth : Nat}
    (hk : .inline k ∈ c.document.near schema) (hdepth : c.depth schema ≤ depth) :
    c.document.mergeAllOf depth k ≠ .error .tooDeep := by
  refine Document.mergeAllOf_ne_tooDeep hk (le_trans ?_ ((c.card_near_le_depth schema).trans hdepth))
  generalize (c.document.nearFinset schema).card = n
  calc (n + 1) * (n + 1) ≤ (n + 2) ^ 2 := by nlinarith
    _ ≤ (n + 2) ^ 4 := Nat.pow_le_pow_right (by omega) (by omega)

end Compiler

end OpenApi

import Mathlib.Data.Finset.Card
import Mathlib.Data.Set.Finite.Basic
import OpenApi.Proofs.Document.Depth
import OpenApi.Proofs.Json.Values
import OpenApi.Proofs.Schema.Parts

/-!
Following references and merging the parts of an `allOf` come to an end in every document, however
recursive its schemas are. A chain of references is no longer than the document is large, and a merge
meets no reference twice.
-/

namespace OpenApi

/-- The schema that a part without reference is. -/
def DirectSchema.toSchema : DirectSchema → Schema
  | .bool accepts => .bool accepts
  | .inline k => .inline k

namespace Document

/-! ## Chains of references -/

section

variable {ν α : Type} {doc : Document} {kind : Kind ν α}

/-- The references that stand in the document, read as parts of a kind. -/
def onward (doc : Document) (kind : Kind ν α) : List String :=
  doc.raw.values.filterMap fun value =>
    match kind.decode value with
    | .ok node => (kind.view node).getLeft?
    | .error _ => none

theorem length_onward_le : (doc.onward kind).length ≤ doc.raw.size := by
  rw [← Json.length_values]
  exact List.length_filterMap_le _ _

theorem resolveAs_eq_ok {α : Type} {reference expected : String} {decode : Decoder Json α} {a : α}
    (h : doc.resolveAs reference expected decode = .ok a) :
    ∃ value ∈ doc.raw.values, decode value = .ok a := by
  obtain ⟨value, hvalue, ha⟩ := Except.bind_eq_ok.1 h
  refine ⟨value, resolve_mem_values hvalue, ?_⟩
  cases hdecode : decode value with
  | error e => rw [hdecode] at ha; cases ha
  | ok b => rw [hdecode] at ha; cases ha; rfl

theorem mem_onward {reference next : String} {node : ν}
    (h : doc.resolveAs reference kind.name kind.decode = .ok node)
    (hview : kind.view node = .inl next) : next ∈ doc.onward kind := by
  obtain ⟨value, hvalue, hdecode⟩ := resolveAs_eq_ok h
  exact List.mem_filterMap.2 ⟨value, hvalue, by simp [hdecode, hview]⟩

theorem followRefs_ne_tooDeep {seen : List String} {node : ν} {fuel : Nat} (hnodup : seen.Nodup)
    (hseen : seen.tail ⊆ doc.onward kind)
    (hnode : seen ≠ [] → ∀ r, kind.view node = .inl r → r ∈ doc.onward kind)
    (hfuel : doc.raw.size + 2 ≤ fuel + seen.length) :
    doc.followRefs kind seen node fuel ≠ .error .tooDeep := by
  induction fuel generalizing seen node with
  | zero =>
    -- The references met are all different, and all but the first are read in the document.
    have := (hnodup.tail.length_le_of_subset hseen).trans length_onward_le
    rw [List.length_tail] at this
    omega
  | succ fuel ih =>
    unfold followRefs
    cases hview : kind.view node with
    | inr part => exact nofun
    | inl reference =>
      dsimp only
      split
      · exact nofun
      · rename_i hnew
        cases hnext : doc.resolveAs reference kind.name kind.decode with
        | error cause => exact nofun
        | ok next =>
          refine ih ?_ ?_ (fun _ r hr => mem_onward hnext hr) ?_
          · exact List.nodup_append.2 ⟨hnodup, List.nodup_singleton _, by
              rintro a ha _ hb rfl
              rw [List.mem_singleton.1 hb] at ha
              exact hnew ha⟩
          · cases seen with
            | nil => simp
            | cons first rest =>
              have := hnode (by simp) reference hview
              simpa [this] using hseen
          · rw [List.length_append, List.length_singleton]
            omega

/-- The chain of references that a part begins with has an end. -/
theorem deref_ne_tooDeep (doc : Document) (kind : Kind ν α) (node : ν) :
    doc.deref kind node ≠ .error .tooDeep := by
  unfold deref
  split
  · exact nofun
  · exact followRefs_ne_tooDeep List.nodup_nil (by simp) (by simp) (by simp)

end

/-! ## Sets of schemas -/

/-- A set of schemas that holds what stands in its schemas and what their references lead to, and
the schema that items have if none is given. -/
structure Closed (doc : Document) (B : Set Schema) : Prop where
  any : .bool true ∈ B
  part : ∀ {x y}, y ∈ B → Schema.Part x y → x ∈ B
  target : ∀ {r t}, .ref r ∈ B → doc.resolveAs r "schema" Schema.decode = .ok t → t ∈ B

/-- The schemas that stand in the given one or in a value of the document, and the one that items
have if none is given. -/
def near (doc : Document) (schema : Schema) : Set Schema :=
  {x | x = .bool true ∨ Schema.Part x schema ∨
    ∃ value ∈ doc.raw.values, ∃ t, Schema.decode value = .ok t ∧ Schema.Part x t}

theorem near_closed (doc : Document) (schema : Schema) : doc.Closed (doc.near schema) where
  any := .inl rfl
  part := by
    rintro x y (rfl | hy | ⟨value, hvalue, t, ht, hy⟩) hx
    · cases hx
      exact .inl rfl
    · exact .inr (.inl (hx.trans hy))
    · exact .inr (.inr ⟨value, hvalue, t, ht, hx.trans hy⟩)
  target := by
    intro r t _ ht
    obtain ⟨value, hvalue, hdecode⟩ := resolveAs_eq_ok ht
    exact .inr (.inr ⟨value, hvalue, t, hdecode, .refl⟩)

theorem near_finite (doc : Document) (schema : Schema) : (doc.near schema).Finite := by
  have hvalues : (⋃ value ∈ {value | value ∈ doc.raw.values},
      {x | ∃ t, Schema.decode value = .ok t ∧ Schema.Part x t}).Finite := by
    refine (List.finite_toSet doc.raw.values).biUnion fun value _ => ?_
    cases hdecode : Schema.decode value with
    | error e => simp
    | ok t => simpa using Schema.Part.finite t
  refine ((Set.finite_singleton (Schema.bool true)).union
    ((Schema.Part.finite schema).union hvalues)).subset ?_
  rintro x (rfl | hx | ⟨value, hvalue, hx⟩)
  · exact .inl rfl
  · exact .inr (.inl hx)
  · exact .inr (.inr (Set.mem_biUnion hvalue hx))

section

variable {doc : Document} {B : Set Schema}

theorem Closed.child (hB : doc.Closed B) {k : Keywords Schema} {x : Schema} (hk : .inline k ∈ B)
    (hx : x ∈ k.children) : x ∈ B :=
  hB.part hk (.child hx .refl)

theorem followRefs_induction {P : Schema → Prop} {node : DirectSchema}
    (href : ∀ r target, doc.resolveAs r "schema" Schema.decode = .ok target → P target → P (.ref r))
    {seen : List String} {x : Schema} {fuel : Nat}
    (h : doc.followRefs .schema seen x fuel = .ok node) (hnode : P node.toSchema) : P x := by
  induction fuel generalizing seen x with
  | zero => cases h
  | succ fuel ih =>
    cases x with
    | bool accepts => cases h; exact hnode
    | inline k => cases h; exact hnode
    | ref reference =>
      unfold Document.followRefs at h
      dsimp only [Kind.schema] at h
      split at h
      · cases h
      · cases hnext : doc.resolveAs reference "schema" Schema.decode with
        | error cause => rw [hnext] at h; cases h
        | ok next =>
          rw [hnext] at h
          exact href reference next hnext (ih h)

/-- What holds of the schema at the end of a chain of references, and with the target of a reference
holds of the reference, holds of the schema that the chain begins with. -/
theorem deref_induction {P : Schema → Prop} {node : DirectSchema}
    (href : ∀ r target, doc.resolveAs r "schema" Schema.decode = .ok target → P target → P (.ref r))
    {x : Schema} (h : doc.deref .schema x = .ok node) (hnode : P node.toSchema) : P x := by
  cases x with
  | bool accepts => cases h; exact hnode
  | inline k => cases h; exact hnode
  | ref reference => exact followRefs_induction href h hnode

theorem Closed.deref (hB : doc.Closed B) {x : Schema} {k : Keywords Schema} (hx : x ∈ B)
    (h : doc.deref .schema x = .ok (.inline k)) : .inline k ∈ B :=
  deref_induction (P := fun y => y ∈ B → .inline k ∈ B)
    (fun _ _ htarget ih hr => ih (hB.target hr htarget)) h id hx

/-! ## Merges -/

/-- A part that is merged: a schema that accepts everything adds nothing, an object its members. -/
theorem mergePart_eq_ok {merge : Merge → Keywords Schema → Except CompileError Merge} {m m' : Merge}
    {part : Schema} (h : doc.mergePart merge m part = .ok m') :
    ∃ m₁, m.meet part = .ok m₁ ∧ (doc.deref .schema part = .ok (.bool true) ∧ m' = m₁ ∨
      ∃ k, doc.deref .schema part = .ok (.inline k) ∧ Merge.isPart k = true ∧ merge m₁ k = .ok m') := by
  obtain ⟨m₁, hmeet, h⟩ := Except.bind_eq_ok.1 h
  obtain ⟨target, htarget, h⟩ := Except.bind_eq_ok.1 h
  refine ⟨m₁, hmeet, ?_⟩
  rcases target with (_ | _) | k
  · cases h
  · cases h; exact .inl ⟨htarget, rfl⟩
  · dsimp only at h
    split at h
    case isTrue hpart => exact .inr ⟨k, htarget, hpart, h⟩
    case isFalse => cases h

theorem meet_eq_ok {m m' : Merge} {part : Schema} (h : m.meet part = .ok m') :
    (∃ r, part = .ref r ∧ r ∉ m.seen ∧ m' = { m with seen := m.seen ++ [r] }) ∨
      (∀ r, part ≠ .ref r) ∧ m' = m := by
  cases part with
  | ref r =>
    unfold Merge.meet at h
    dsimp only at h
    split at h
    · cases h
    · rename_i hnew
      cases h
      exact .inl ⟨r, rfl, hnew, rfl⟩
  | bool _ => cases h; exact .inr ⟨nofun, rfl⟩
  | inline _ => cases h; exact .inr ⟨nofun, rfl⟩

theorem meet_ne_tooDeep {m : Merge} {part : Schema} : m.meet part ≠ .error .tooDeep := by
  unfold Merge.meet
  split
  · split <;> exact nofun
  · exact nofun

theorem meet_seen {m m' : Merge} {part : Schema} (h : m.meet part = .ok m') :
    m.seen ⊆ m'.seen := by
  rcases meet_eq_ok h with ⟨r, _, _, rfl⟩ | ⟨_, rfl⟩
  · exact List.subset_append_left _ _
  · exact List.Subset.refl _

theorem mergePart_preserves {merge : Merge → Keywords Schema → Except CompileError Merge}
    {inv : Merge → Prop} {part : Schema}
    (hmeet : ∀ m m', inv m → m.meet part = .ok m' → inv m')
    (hmerge : ∀ m k m', doc.deref .schema part = .ok (.inline k) → inv m → merge m k = .ok m' →
      inv m') {m m' : Merge} (hm : inv m) (h : doc.mergePart merge m part = .ok m') : inv m' := by
  obtain ⟨m₁, hmeet₁, ⟨_, rfl⟩ | ⟨k, hk, _, h⟩⟩ := mergePart_eq_ok h
  · exact hmeet m m' hm hmeet₁
  · exact hmerge m₁ k m' hk (hmeet m m₁ hm hmeet₁) h

/-- What holds of a merge after each reference that it meets and each schema whose members it takes
in holds at its end. -/
theorem merge_preserves {inv : Merge → Prop} {good : Keywords Schema → Prop}
    (hmeet : ∀ m part m', inv m → m.meet part = .ok m' → inv m')
    (hown : ∀ m k, good k → inv m → inv (m.own k))
    (hgood : ∀ k part k', good k → part ∈ k.allOf → doc.deref .schema part = .ok (.inline k') →
      good k')
    {depth : Nat} {m m' : Merge} {k : Keywords Schema} (hk : good k) (hm : inv m)
    (h : doc.merge depth m k = .ok m') : inv m' := by
  induction depth generalizing m k m' with
  | zero => cases h
  | succ depth ih =>
    obtain ⟨m₁, hparts, h⟩ := Except.bind_eq_ok.1 h
    cases h
    refine hown m₁ k hk (Except.foldlM_preserves (fun m part hpart m' hm h => ?_) hm hparts)
    exact mergePart_preserves (fun m m' => hmeet m part m')
      (fun m k' m' hk' hm h => ih (hgood k part k' hk hpart hk') hm h) hm h

/-- A merge forgets no reference that it has met. -/
theorem merge_seen {depth : Nat} {m m' : Merge} {k : Keywords Schema}
    (h : doc.merge depth m k = .ok m') : m.seen ⊆ m'.seen := by
  have hmeet : ∀ (m₁ : Merge) (part : Schema) (m₂ : Merge), m.seen ⊆ m₁.seen →
      m₁.meet part = .ok m₂ → m.seen ⊆ m₂.seen :=
    fun _ _ _ hm h => List.Subset.trans hm (meet_seen h)
  have hown : ∀ (m₁ : Merge) (k : Keywords Schema), True → m.seen ⊆ m₁.seen →
      m.seen ⊆ (m₁.own k).seen := fun _ _ _ h => h
  exact merge_preserves hmeet hown (fun _ _ _ _ _ _ => trivial) trivial (List.Subset.refl _) h

theorem mergePart_seen {depth : Nat} {m m' : Merge} {part : Schema}
    (h : doc.mergePart (doc.merge depth) m part = .ok m') : m.seen ⊆ m'.seen := by
  obtain ⟨m₁, hmeet, ⟨_, rfl⟩ | ⟨k, _, _, hk⟩⟩ := mergePart_eq_ok h
  · exact meet_seen hmeet
  · exact List.Subset.trans (meet_seen hmeet) (merge_seen hk)

open Classical in
/-- The references of `R` that a merge has not met. -/
noncomputable def unmet (R : Finset String) (m : Merge) : Finset String :=
  R.filter fun r => r ∉ m.seen

theorem card_unmet_le {R : Finset String} {m m' : Merge} (h : m.seen ⊆ m'.seen) :
    (unmet R m').card ≤ (unmet R m).card :=
  Finset.card_le_card (Finset.monotone_filter_right R fun _ _ hr => mt (fun hm => h hm) hr)

theorem card_unmet_lt {R : Finset String} {m : Merge} {r : String} (hr : r ∈ R)
    (hnew : r ∉ m.seen) :
    (unmet R { m with seen := m.seen ++ [r] }).card < (unmet R m).card := by
  refine Finset.card_lt_card (Finset.ssubset_iff_subset_ne.2 ⟨?_, fun heq => ?_⟩)
  · exact Finset.monotone_filter_right R fun _ _ hr => mt (fun hm => by simp [hm]) hr
  · have : r ∈ unmet R m := by simp [unmet, hr, hnew]
    rw [← heq] at this
    simp [unmet] at this

/-- One part of a merge comes to an end, if the merges with the schemas that it can lead to do. -/
theorem mergePart_ends {part : Schema} {m : Merge}
    (h : ∀ m₁ k, m.meet part = .ok m₁ → doc.deref .schema part = .ok (.inline k) →
      Ends fun depth => doc.merge depth m₁ k) :
    Ends fun depth => doc.mergePart (doc.merge depth) m part := by
  cases hmeet : m.meet part with
  | error e =>
    refine ⟨0, fun h => ?_⟩
    simp only [mergePart, hmeet, bind, Except.bind] at h
    cases h
    exact meet_ne_tooDeep hmeet
  | ok m₁ =>
    cases hderef : doc.deref .schema part with
    | error e =>
      refine ⟨0, fun h => ?_⟩
      simp only [mergePart, hmeet, hderef, bind, Except.bind] at h
      cases h
      exact deref_ne_tooDeep doc .schema part hderef
    | ok target =>
      rcases target with (_ | _) | k
      · refine ⟨0, fun h => ?_⟩
        simp only [mergePart, hmeet, hderef, bind, Except.bind] at h
        cases h
      · refine ⟨0, fun h => ?_⟩
        simp only [mergePart, hmeet, hderef, bind, Except.bind] at h
        cases h
      · obtain ⟨n, hn⟩ := h m₁ k hmeet hderef
        refine ⟨n, fun h => ?_⟩
        simp only [mergePart, hmeet, hderef, bind, Except.bind] at h
        split at h
        · exact hn h
        · cases h

/-- A merge comes to an end: after a reference has been met there are fewer to meet, and without one
the schemas become smaller. -/
theorem merge_ends (hB : doc.Closed B) (R : Finset String) (hR : ∀ r, .ref r ∈ B → r ∈ R)
    (count : Nat) {k : Keywords Schema} (hk : .inline k ∈ B) {m : Merge}
    (hm : (unmet R m).card ≤ count) : Ends fun depth => doc.merge depth m k := by
  induction count using Nat.strong_induction_on generalizing k m with
  | h count ih =>
    generalize hsize : sizeOf (Schema.inline k) = size
    induction size using Nat.strong_induction_on generalizing k m with
    | h size ih' =>
      refine .of_succ (.bind (fun n => ?_) (fun _ _ => .refl _) ?_ fun _ _ _ => .of_ne nofun)
      · exact .foldlM (doc.mergePart_deepens (doc.merge_deepens n)) k.allOf m
      · refine Ends.foldlM (fun m part n => doc.mergePart_deepens (doc.merge_deepens n) m part)
          (fun n m m' part _ hm h => (card_unmet_le (mergePart_seen h)).trans hm)
          (fun m part hpart hm => mergePart_ends fun m₁ k' hmeet hderef => ?_) hm
        have hmem : part ∈ k.children :=
          Keywords.mem_children.2 (.inr (.inr (.inl hpart)))
        have hpartB := hB.child hk hmem
        rcases meet_eq_ok hmeet with ⟨r, rfl, hnew, rfl⟩ | ⟨hno, rfl⟩
        · exact ih _ ((card_unmet_lt (hR r hpartB) hnew).trans_le hm) (hB.deref hpartB hderef) le_rfl
        · cases part with
          | ref r => exact absurd rfl (hno r)
          | bool accepts => cases hderef
          | inline k'' =>
            cases hderef
            exact ih' _ (hsize ▸ Keywords.sizeOf_lt_of_mem_children hmem) hpartB hm rfl

end

theorem finite_refs {B : Set Schema} (hfinite : B.Finite) : {r | .ref r ∈ B}.Finite :=
  hfinite.preimage fun _ _ _ _ h => Schema.ref.inj h

/-- The object schema that an `allOf` amounts to is found, or a fault in it, at some depth that is
enough for all schemas of a finite set. -/
theorem mergeAllOf_ends {doc : Document} {B : Set Schema} (hB : doc.Closed B) (hfinite : B.Finite) :
    ∃ n, ∀ depth ≥ n, ∀ k, .inline k ∈ B → doc.mergeAllOf depth k ≠ .error .tooDeep := by
  have heach : ∀ x ∈ hfinite.toFinset.toList, ∃ n, ∀ depth ≥ n, ∀ k, x = .inline k →
      doc.mergeAllOf depth k ≠ .error .tooDeep := by
    intro x hx
    cases x with
    | ref r => exact ⟨0, fun _ _ _ h => by cases h⟩
    | bool accepts => exact ⟨0, fun _ _ _ h => by cases h⟩
    | inline k =>
      have hk : .inline k ∈ B := by simpa using hx
      have hends : Ends fun depth => doc.mergeAllOf depth k :=
        .bind (fun depth => doc.merge_deepens depth {} k) (fun _ _ => .refl _)
          (merge_ends hB (finite_refs hfinite).toFinset (fun r hr => by simpa using hr) _ hk le_rfl)
          fun _ _ _ => .of_ne nofun
      obtain ⟨n, hn⟩ := hends.ne_of_ge fun depth => doc.mergeAllOf_deepens depth k
      exact ⟨n, fun depth hdepth k' h => by cases h; exact hn depth hdepth⟩
  obtain ⟨n, hn⟩ := exists_depth heach
  exact ⟨n, fun depth hdepth k hk => hn depth hdepth (.inline k) (by simpa using hk) k rfl⟩

end Document

end OpenApi

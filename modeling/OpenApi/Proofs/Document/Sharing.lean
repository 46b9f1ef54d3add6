import OpenApi.Proofs.Document.Bounds

/-!
Parts that an `allOf` has more than once. A merge remembers all references that it has met, also those
that it has come back from, and reports the first one that it meets again as a cycle. Where no
reference is met again after it has been left, this is what a cycle is: a reference that is met inside
of what it leads to (`mergeAllOf_cycle_iff`). But schemas with a common base are reported as well
(`sharedBase_reported`).
-/

namespace OpenApi

/-- The reference that a schema is, if it is one. -/
def Schema.link : Schema → List String
  | .ref target => [target]
  | _ => []

namespace Document

/-- Descending into the parts of an `allOf`, where the references in `path` are open, one comes back
without having met an open reference or anything that is no part. The references `met` are met on the
way. -/
inductive Passes (doc : Document) : List String → List Schema → List String → Prop
  | nil {path : List String} : Passes doc path [] []
  | any {path met : List String} {part : Schema} {rest : List Schema}
      (closed : ∀ r ∈ part.link, r ∉ path) (target : doc.deref .schema part = .ok (.bool true))
      (more : Passes doc path rest met) : Passes doc path (part :: rest) (part.link ++ met)
  | object {path inner met : List String} {part : Schema} {rest : List Schema} {k : Keywords Schema}
      (closed : ∀ r ∈ part.link, r ∉ path) (target : doc.deref .schema part = .ok (.inline k))
      (isPart : Merge.isPart k = true) (inside : Passes doc (path ++ part.link) k.allOf inner)
      (more : Passes doc path rest met) :
      Passes doc path (part :: rest) (part.link ++ (inner ++ met))

/-- Descending into the parts of an `allOf`, where the references in `path` are open, one comes to the
reference `r` while that is open. -/
inductive Reopens (doc : Document) (r : String) : List String → List Schema → Prop
  | found {path : List String} {rest : List Schema} (opened : r ∈ path) :
      Reopens doc r path (.ref r :: rest)
  | inside {path : List String} {part : Schema} {rest : List Schema} {k : Keywords Schema}
      (closed : ∀ r ∈ part.link, r ∉ path) (target : doc.deref .schema part = .ok (.inline k))
      (isPart : Merge.isPart k = true) (more : Reopens doc r (path ++ part.link) k.allOf) :
      Reopens doc r path (part :: rest)
  | after {path met : List String} {part : Schema} {rest : List Schema}
      (before : Passes doc path [part] met) (more : Reopens doc r path rest) :
      Reopens doc r path (part :: rest)

/-- Descending into the parts of an `allOf`, where the references in `met` have been met before and
those in `path` are open, one comes to the reference `r` a second time after it has been left; no other
reference is met twice before that. -/
inductive Revisits (doc : Document) (r : String) : List String → List String → List Schema → Prop
  | found {path met : List String} {rest : List Schema} (before : r ∈ met) (left : r ∉ path) :
      Revisits doc r path met (.ref r :: rest)
  | inside {path met : List String} {part : Schema} {rest : List Schema} {k : Keywords Schema}
      (new : (met ++ part.link).Nodup) (target : doc.deref .schema part = .ok (.inline k))
      (isPart : Merge.isPart k = true)
      (more : Revisits doc r (path ++ part.link) (met ++ part.link) k.allOf) :
      Revisits doc r path met (part :: rest)
  | after {path met inner : List String} {part : Schema} {rest : List Schema}
      (before : Passes doc path [part] inner) (new : (met ++ inner).Nodup)
      (more : Revisits doc r path (met ++ inner) rest) : Revisits doc r path met (part :: rest)

variable {doc : Document} {path met inner : List String} {part : Schema} {parts rest : List Schema}
  {r : String}

/-! ## Descents -/

/-- One comes back from the parts, or meets an open reference, but not both. -/
theorem Passes.not_reopens (h : doc.Passes path parts met) : ¬doc.Reopens r path parts := by
  induction h with
  | nil => exact nofun
  | any closed target _ ih =>
    intro h
    cases h with
    | found opened => exact closed r (List.mem_singleton_self r) opened
    | inside _ target' => cases target.symm.trans target'
    | after _ more => exact ih more
  | object closed target _ _ _ ih ih' =>
    intro h
    cases h with
    | found opened => exact closed r (List.mem_singleton_self r) opened
    | inside _ target' _ more =>
      cases target.symm.trans target'
      exact ih more
    | after _ more => exact ih' more

theorem Passes.append (h : doc.Passes path [part] inner) (h' : doc.Passes path rest met) :
    doc.Passes path (part :: rest) (inner ++ met) := by
  cases h with
  | any closed target more =>
    cases more
    simpa using .any closed target h'
  | object closed target isPart inside more =>
    cases more
    simpa using .object closed target isPart inside h'

theorem nodup_append_link (hmet : met.Nodup) (hlink : ∀ r ∈ part.link, r ∉ met) :
    (met ++ part.link).Nodup := by
  refine List.nodup_append.2 ⟨hmet, ?_, ?_⟩
  · cases part <;> simp [Schema.link]
  · rintro a ha b hb rfl
    exact hlink a hb ha

theorem link_disjoint (h : (met ++ part.link).Nodup) : ∀ r ∈ part.link, r ∉ met :=
  fun r hr hmet => (List.nodup_append.1 h).2.2 r hmet r hr rfl

/-- A part that is met for the first time is not open, and one that is not left again is open. -/
theorem link_new (hopen : ∀ r ∈ part.link, r ∉ path)
    (hno : ∀ r, ¬doc.Revisits r path met (part :: rest)) : ∀ r ∈ part.link, r ∉ met := by
  cases part with
  | ref target =>
    intro r hr hmet
    rw [Schema.link, List.mem_singleton] at hr
    subst hr
    exact hno r (.found hmet (hopen r (List.mem_singleton_self r)))
  | bool accepts => exact nofun
  | inline k => exact nofun

/-- If no reference is met again after it has been left, all that are met on the way back are new. -/
theorem Passes.nodup (h : doc.Passes path parts inner) (hmet : met.Nodup)
    (hno : ∀ r, ¬doc.Revisits r path met parts) : (met ++ inner).Nodup := by
  induction h generalizing met with
  | nil => rwa [List.append_nil]
  | @any path inner part rest closed target more ih =>
    have hnew := nodup_append_link hmet (link_new closed hno)
    have hpart := Passes.any closed target .nil
    rw [List.append_nil] at hpart
    rw [← List.append_assoc]
    exact ih hnew fun r hr => hno r (.after hpart hnew hr)
  | @object path inner more part rest k closed target isPart inside _ ih ih' =>
    have hnew := nodup_append_link hmet (link_new closed hno)
    have hinside := ih hnew fun r hr => hno r (.inside hnew target isPart hr)
    have hpart := Passes.object closed target isPart inside .nil
    rw [List.append_nil] at hpart
    rw [List.append_assoc] at hinside
    rw [← List.append_assoc part.link, ← List.append_assoc met]
    exact ih' hinside fun r hr => hno r (.after hpart hinside hr)

/-! ## Merges -/

section

variable {depth : Nat} {m m' : Merge} {k : Keywords Schema}

theorem followRefs_ne_allOfCycle {ν α : Type} {kind : Kind ν α} {seen : List String} {node : ν}
    {fuel : Nat} : doc.followRefs kind seen node fuel ≠ .error (.malformed (.allOfCycle r)) := by
  induction fuel generalizing seen node with
  | zero => intro h; cases h
  | succ fuel ih =>
    unfold followRefs
    cases kind.view node with
    | inr part => intro h; cases h
    | inl reference =>
      dsimp only
      split
      · intro h; cases h
      · cases doc.resolveAs reference kind.name kind.decode with
        | error cause => intro h; cases h
        | ok next => exact ih

/-- Cycles of references are told apart from those of parts. -/
theorem deref_ne_allOfCycle : doc.deref .schema part ≠ .error (.malformed (.allOfCycle r)) := by
  cases part with
  | ref target => exact followRefs_ne_allOfCycle
  | bool accepts => intro h; cases h
  | inline k => intro h; cases h

theorem meet_new (h : ∀ r ∈ part.link, r ∉ m.seen) :
    m.meet part = .ok { m with seen := m.seen ++ part.link } := by
  cases part with
  | ref target => exact if_neg (h target (List.mem_singleton_self target))
  | bool accepts => simp [Merge.meet, Schema.link]
  | inline k => simp [Merge.meet, Schema.link]

/-- Meeting a part fails only at a reference that has been met before. -/
theorem meet_cases (m : Merge) (part : Schema) :
    (∃ r, part = .ref r ∧ r ∈ m.seen ∧ m.meet part = .error (.malformed (.allOfCycle r))) ∨
      (∀ r ∈ part.link, r ∉ m.seen) ∧ m.meet part = .ok { m with seen := m.seen ++ part.link } := by
  by_cases h : ∀ r ∈ part.link, r ∉ m.seen
  · exact .inr ⟨h, meet_new h⟩
  · cases part with
    | ref target =>
      have hmem : target ∈ m.seen := by simpa [Schema.link] using h
      exact .inl ⟨target, rfl, hmem, if_pos hmem⟩
    | bool accepts => simp [Schema.link] at h
    | inline k => simp [Schema.link] at h

variable {merge : Merge → Keywords Schema → Except CompileError Merge}

theorem mergePart_any (hnew : ∀ r ∈ part.link, r ∉ m.seen)
    (target : doc.deref .schema part = .ok (.bool true)) :
    doc.mergePart merge m part = .ok { m with seen := m.seen ++ part.link } := by
  simp only [mergePart, meet_new hnew, target, bind, Except.bind]
  rfl

theorem mergePart_object (hnew : ∀ r ∈ part.link, r ∉ m.seen)
    (target : doc.deref .schema part = .ok (.inline k)) (isPart : Merge.isPart k = true) :
    doc.mergePart merge m part = merge { m with seen := m.seen ++ part.link } k := by
  simp only [mergePart, meet_new hnew, target, bind, Except.bind, isPart, if_true]

theorem mergePart_met (h : r ∈ m.seen) :
    doc.mergePart merge m (.ref r) = .error (.malformed (.allOfCycle r)) := by
  have hmeet : m.meet (.ref r) = .error (.malformed (.allOfCycle r)) := if_pos h
  simp only [mergePart, hmeet, bind, Except.bind]

/-- A part is reported as a cycle if its reference has been met before, or inside of it. -/
theorem mergePart_allOfCycle
    (h : doc.mergePart merge m part = .error (.malformed (.allOfCycle r))) :
    part = .ref r ∧ r ∈ m.seen ∨ ∃ k, (∀ r ∈ part.link, r ∉ m.seen) ∧
      doc.deref .schema part = .ok (.inline k) ∧ Merge.isPart k = true ∧
      merge { m with seen := m.seen ++ part.link } k = .error (.malformed (.allOfCycle r)) := by
  rcases meet_cases m part with ⟨r', rfl, hseen, -⟩ | ⟨hnew, -⟩
  · rw [mergePart_met hseen] at h
    cases h
    exact .inl ⟨rfl, hseen⟩
  · cases hderef : doc.deref .schema part with
    | error e =>
      simp only [mergePart, meet_new hnew, hderef, bind, Except.bind] at h
      cases h
      exact absurd hderef deref_ne_allOfCycle
    | ok target =>
      simp only [mergePart, meet_new hnew, hderef, bind, Except.bind] at h
      rcases target with (_ | _) | k
      · cases h
      · cases h
      · dsimp only at h
        split at h
        case isTrue hpart => exact .inr ⟨k, hnew, rfl, hpart, h⟩
        case isFalse => cases h

/-- The merge with parts of an `allOf`, where `merge` merges the schema of a part. -/
def mergeParts (doc : Document) (merge : Merge → Keywords Schema → Except CompileError Merge)
    (parts : List Schema) (m : Merge) : Except CompileError Merge :=
  parts.foldlM (doc.mergePart merge) m

theorem mergeParts_cons :
    doc.mergeParts merge (part :: rest) m = doc.mergePart merge m part >>= doc.mergeParts merge rest :=
  List.foldlM_cons

theorem merge_succ :
    doc.merge (depth + 1) m k = doc.mergeParts (doc.merge depth) k.allOf m >>= fun m => .ok (m.own k) :=
  rfl

/-- Between the merges the parts have been passed, and no reference on the way was met before. -/
def Passed (doc : Document) (path : List String) (parts : List Schema) (m m' : Merge) : Prop :=
  ∃ met, doc.Passes path parts met ∧ m'.seen = m.seen ++ met ∧ m'.seen.Nodup

theorem Passed.cons {m₁ : Merge} (h : doc.Passed path [part] m m₁) (h' : doc.Passed path rest m₁ m') :
    doc.Passed path (part :: rest) m m' := by
  obtain ⟨inner, hinner, heq, -⟩ := h
  obtain ⟨met, hmet, heq', hnodup⟩ := h'
  exact ⟨inner ++ met, hinner.append hmet, by rw [heq', heq, List.append_assoc], hnodup⟩

theorem mergePart_passed (hpath : path ⊆ m.seen) (hseen : m.seen.Nodup)
    (hmerge : ∀ {path m k m'}, path ⊆ m.seen → m.seen.Nodup → merge m k = .ok m' →
      doc.Passed path k.allOf m m')
    (h : doc.mergePart merge m part = .ok m') : doc.Passed path [part] m m' := by
  obtain ⟨m₁, hmeet, htarget⟩ := mergePart_eq_ok h
  rcases meet_cases m part with ⟨_, _, _, herror⟩ | ⟨hnew, hmeet'⟩
  · cases herror.symm.trans hmeet
  · cases hmeet'.symm.trans hmeet
    have hclosed : ∀ r ∈ part.link, r ∉ path := fun r hr hmem => hnew r hr (hpath hmem)
    have hseen' := nodup_append_link hseen hnew
    rcases htarget with ⟨htarget, rfl⟩ | ⟨k, htarget, hk, hmerged⟩
    · exact ⟨part.link ++ [], .any hclosed htarget .nil, by simp, hseen'⟩
    · have hpath' : path ++ part.link ⊆ m.seen ++ part.link :=
        List.append_subset_of_subset_of_subset (List.subset_append_of_subset_left _ hpath)
          (List.subset_append_right _ _)
      obtain ⟨inner, hinner, heq, hnodup⟩ := hmerge hpath' hseen' hmerged
      exact ⟨part.link ++ (inner ++ []), .object hclosed htarget hk hinner .nil, by simp [heq], hnodup⟩

theorem mergeParts_passed (hpath : path ⊆ m.seen) (hseen : m.seen.Nodup)
    (hmerge : ∀ {path m k m'}, path ⊆ m.seen → m.seen.Nodup → merge m k = .ok m' →
      doc.Passed path k.allOf m m')
    (h : doc.mergeParts merge parts m = .ok m') : doc.Passed path parts m m' := by
  induction parts generalizing m with
  | nil => cases h; exact ⟨[], .nil, (List.append_nil _).symm, hseen⟩
  | cons part rest ih =>
    rw [mergeParts_cons] at h
    obtain ⟨m₁, hpart, hrest⟩ := Except.bind_eq_ok.1 h
    have hpassed := mergePart_passed hpath hseen hmerge hpart
    have ⟨inner, _, heq, hnodup⟩ := hpassed
    have hpath₁ : path ⊆ m₁.seen := heq ▸ List.subset_append_of_subset_left _ hpath
    exact hpassed.cons (ih hpath₁ hnodup hrest)

/-- Parts that are merged are passed. -/
theorem merge_passed (hpath : path ⊆ m.seen) (hseen : m.seen.Nodup)
    (h : doc.merge depth m k = .ok m') : doc.Passed path k.allOf m m' := by
  -- on the depth, since the parts of a part are merged with less of it
  induction depth generalizing path m k m' with
  | zero => cases h
  | succ depth ih =>
    rw [merge_succ] at h
    obtain ⟨m₁, hparts, hown⟩ := Except.bind_eq_ok.1 h
    cases hown
    have hpassed := mergeParts_passed hpath hseen (fun hpath hseen h => ih hpath hseen h) hparts
    exact hpassed

/-- A reference that is reported as a cycle is met a second time, open or not. -/
theorem mergeParts_allOfCycle (hpath : path ⊆ m.seen) (hseen : m.seen.Nodup)
    (h : doc.mergeParts (doc.merge depth) parts m = .error (.malformed (.allOfCycle r))) :
    doc.Revisits r path m.seen parts ∨ doc.Reopens r path parts := by
  -- on the depth, since the parts of a part are merged with less of it, then along the parts
  induction depth using Nat.strong_induction_on generalizing path parts m with
  | h depth ih =>
    induction parts generalizing m with
    | nil => cases h
    | cons part rest ih' =>
      rw [mergeParts_cons] at h
      rcases Except.bind_eq_error.1 h with hpart | ⟨m₁, hpart, hrest⟩
      · rcases mergePart_allOfCycle hpart with ⟨rfl, hmet⟩ | ⟨k, hnew, htarget, hk, hinside⟩
        · by_cases hopen : r ∈ path
          · exact .inr (.found hopen)
          · exact .inl (.found hmet hopen)
        · have hseen' := nodup_append_link hseen hnew
          have hclosed : ∀ r ∈ part.link, r ∉ path := fun r hr hmem => hnew r hr (hpath hmem)
          have hpath' : path ++ part.link ⊆ m.seen ++ part.link :=
            List.append_subset_of_subset_of_subset (List.subset_append_of_subset_left _ hpath)
              (List.subset_append_right _ _)
          cases depth with
          | zero => cases hinside
          | succ depth =>
            rw [merge_succ] at hinside
            rcases Except.bind_eq_error.1 hinside with hinside | ⟨_, _, hown⟩
            · exact (ih depth (Nat.lt_succ_self depth) hpath' hseen' hinside).imp
                (.inside hseen' htarget hk) (.inside hclosed htarget hk)
            · cases hown
      · obtain ⟨inner, hinner, heq, hnodup⟩ := mergePart_passed hpath hseen merge_passed hpart
        have hpath₁ : path ⊆ m₁.seen := heq ▸ List.subset_append_of_subset_left _ hpath
        have hmore := ih' hpath₁ hnodup hrest
        rw [heq] at hmore hnodup
        exact hmore.imp (.after hinner hnodup) (.after hinner)

/-- A part that has parts itself is merged before the rest, with less depth. -/
theorem mergeParts_inside (hnew : ∀ r ∈ part.link, r ∉ m.seen)
    (target : doc.deref .schema part = .ok (.inline k)) (isPart : Merge.isPart k = true)
    (hends : doc.mergeParts (doc.merge depth) (part :: rest) m ≠ .error .tooDeep) :
    ∃ less, doc.mergeParts (doc.merge depth) (part :: rest) m =
      doc.mergeParts (doc.merge less) k.allOf { m with seen := m.seen ++ part.link } >>= fun m₁ =>
        doc.mergeParts (doc.merge depth) rest (m₁.own k) := by
  rw [mergeParts_cons, mergePart_object hnew target isPart] at hends ⊢
  cases depth with
  | zero => exact absurd rfl hends
  | succ depth => exact ⟨depth, by rw [merge_succ, bind_assoc]; rfl⟩

/-- Parts that are passed are merged, if no reference on the way has been met before. -/
theorem Passes.merges (h : doc.Passes path parts met) (hnodup : (m.seen ++ met).Nodup)
    (hends : doc.mergeParts (doc.merge depth) parts m ≠ .error .tooDeep) :
    ∃ m', doc.mergeParts (doc.merge depth) parts m = .ok m' ∧ m'.seen = m.seen ++ met := by
  induction h generalizing m depth with
  | nil => exact ⟨m, rfl, (List.append_nil _).symm⟩
  | @any path met part rest closed target _ ih =>
    rw [← List.append_assoc] at hnodup
    have hnew := link_disjoint (List.nodup_append.1 hnodup).1
    rw [mergeParts_cons, mergePart_any hnew target] at hends ⊢
    rw [← List.append_assoc]
    exact ih hnodup hends
  | @object path inner met part rest k closed target isPart _ _ ih ih' =>
    rw [← List.append_assoc, ← List.append_assoc] at hnodup
    have hinner := (List.nodup_append.1 hnodup).1
    have hnew := link_disjoint (List.nodup_append.1 hinner).1
    obtain ⟨less, heq⟩ := mergeParts_inside hnew target isPart hends
    rw [heq] at hends ⊢
    obtain ⟨m₁, hm₁, hseen₁⟩ := ih hinner fun h => hends (Except.bind_eq_error.2 (.inl h))
    rw [hm₁] at hends ⊢
    obtain ⟨m', hm', hseen'⟩ := ih' (m := m₁.own k) (hseen₁ ▸ hnodup) hends
    refine ⟨m', hm', hseen'.trans ?_⟩
    show m₁.seen ++ met = _
    rw [hseen₁, List.append_assoc, List.append_assoc]

/-- After a part that is passed, the rest is merged. -/
theorem Passes.mergeParts_after (h : doc.Passes path [part] inner) (hnodup : (m.seen ++ inner).Nodup)
    (hends : doc.mergeParts (doc.merge depth) (part :: rest) m ≠ .error .tooDeep) :
    ∃ m₁, m₁.seen = m.seen ++ inner ∧ doc.mergeParts (doc.merge depth) (part :: rest) m =
      doc.mergeParts (doc.merge depth) rest m₁ := by
  rw [mergeParts_cons] at hends ⊢
  have hone : doc.mergeParts (doc.merge depth) [part] m = doc.mergePart (doc.merge depth) m part := by
    rw [mergeParts_cons]
    exact bind_pure _
  obtain ⟨m₁, hm₁, hseen⟩ := h.merges hnodup fun h =>
    hends (Except.bind_eq_error.2 (.inl (hone ▸ h)))
  rw [hone] at hm₁
  exact ⟨m₁, hseen, by rw [hm₁]; rfl⟩

/-- What is met a second time after it has been left is reported. -/
theorem Revisits.reported (h : doc.Revisits r path m.seen parts)
    (hends : doc.mergeParts (doc.merge depth) parts m ≠ .error .tooDeep) :
    doc.mergeParts (doc.merge depth) parts m = .error (.malformed (.allOfCycle r)) := by
  generalize hseen : m.seen = seen at h
  induction h generalizing m depth with
  | found before =>
    rw [mergeParts_cons, mergePart_met (hseen ▸ before)]
    rfl
  | inside new target isPart _ ih =>
    subst hseen
    obtain ⟨less, heq⟩ := mergeParts_inside (link_disjoint new) target isPart hends
    rw [heq] at hends ⊢
    exact Except.bind_eq_error.2 (.inl (ih (fun h => hends (Except.bind_eq_error.2 (.inl h))) rfl))
  | after before new _ ih =>
    subst hseen
    obtain ⟨m₁, hseen₁, heq⟩ := before.mergeParts_after new hends
    rw [heq] at hends ⊢
    exact ih hends hseen₁

theorem Revisits.cons (h : doc.Revisits r path met [part]) : doc.Revisits r path met (part :: rest) := by
  cases h with
  | found before left => exact .found before left
  | inside new target isPart more => exact .inside new target isPart more
  | after _ _ more => cases more

/-- What is met while it is open is reported, if nothing is met a second time after it has been left. -/
theorem Reopens.reported (h : doc.Reopens r path parts) (hpath : path ⊆ m.seen) (hseen : m.seen.Nodup)
    (hno : ∀ r, ¬doc.Revisits r path m.seen parts)
    (hends : doc.mergeParts (doc.merge depth) parts m ≠ .error .tooDeep) :
    doc.mergeParts (doc.merge depth) parts m = .error (.malformed (.allOfCycle r)) := by
  induction h generalizing m depth with
  | found opened =>
    rw [mergeParts_cons, mergePart_met (hpath opened)]
    rfl
  | inside closed target isPart _ ih =>
    have hseen' := nodup_append_link hseen (link_new closed hno)
    obtain ⟨less, heq⟩ := mergeParts_inside (link_disjoint hseen') target isPart hends
    rw [heq] at hends ⊢
    refine Except.bind_eq_error.2 (.inl (ih ?_ hseen' (fun r hr => hno r (.inside hseen' target isPart hr))
      fun h => hends (Except.bind_eq_error.2 (.inl h))))
    exact List.append_subset_of_subset_of_subset (List.subset_append_of_subset_left _ hpath)
      (List.subset_append_right _ _)
  | after before _ ih =>
    have hnew := before.nodup hseen fun r hr => hno r hr.cons
    obtain ⟨m₁, hseen₁, heq⟩ := before.mergeParts_after hnew hends
    rw [heq] at hends ⊢
    exact ih (hseen₁ ▸ List.subset_append_of_subset_left _ hpath) (hseen₁ ▸ hnew)
      (fun r hr => hno r (.after before hnew (hseen₁ ▸ hr))) hends

/-- A merge that comes to an end is that of the parts, and of the members beside them. -/
theorem mergeAllOf_eq_mergeParts (hends : doc.mergeAllOf depth k ≠ .error .tooDeep) :
    ∃ less, doc.mergeAllOf depth k =
      doc.mergeParts (doc.merge less) k.allOf {} >>= fun m => .ok (m.own k).object := by
  cases depth with
  | zero => exact absurd rfl hends
  | succ depth => exact ⟨depth, by rw [mergeAllOf, merge_succ, bind_assoc]; rfl⟩

/-- The object schema of an `allOf` is found, or a fault in it, however recursive its parts are, at the
depth that compilers follow schemas to and at every other that is enough. A reference that is met a second
time after it has been left is reported as a cycle. Without one, the references that are reported are
those that are met while they are open, and the parts are merged if one comes back from them. -/
theorem mergeAllOf_cycle_iff (c : Compiler) (k : Keywords Schema) :
    ∃ n ≤ c.depth (.inline k), ∀ depth ≥ n,
      c.document.mergeAllOf depth k ≠ .error .tooDeep ∧
      (∀ r, c.document.Revisits r [] [] k.allOf →
        c.document.mergeAllOf depth k = .error (.malformed (.allOfCycle r))) ∧
      ((∀ r, ¬c.document.Revisits r [] [] k.allOf) →
        (∀ r, c.document.mergeAllOf depth k = .error (.malformed (.allOfCycle r)) ↔
          c.document.Reopens r [] k.allOf) ∧
        ((∃ merged, c.document.mergeAllOf depth k = .ok merged) ↔
          ∃ met, c.document.Passes [] k.allOf met)) := by
  refine ⟨c.depth (.inline k), le_rfl, fun depth hdepth => ?_⟩
  have hends := c.mergeAllOf_ne_tooDeep (.inr (.inl .refl)) hdepth
  obtain ⟨less, heq⟩ := mergeAllOf_eq_mergeParts hends
  rw [heq] at hends ⊢
  have hparts : c.document.mergeParts (c.document.merge less) k.allOf {} ≠ .error .tooDeep := fun h =>
    hends (Except.bind_eq_error.2 (.inl h))
  refine ⟨hends, fun r hr => Except.bind_eq_error.2 (.inl (hr.reported hparts)), fun hno => ⟨?_, ?_⟩⟩
  · refine fun r => ⟨fun h => ?_, fun h => Except.bind_eq_error.2 (.inl ?_)⟩
    · rcases Except.bind_eq_error.1 h with h | ⟨_, _, hown⟩
      · exact (mergeParts_allOfCycle (List.nil_subset _) List.nodup_nil h).resolve_left (hno r)
      · cases hown
    · exact h.reported (List.nil_subset _) List.nodup_nil hno hparts
  · constructor
    · rintro ⟨merged, h⟩
      obtain ⟨m, hm, -⟩ := Except.bind_eq_ok.1 h
      obtain ⟨met, hmet, -⟩ :=
        mergeParts_passed (List.nil_subset _) List.nodup_nil merge_passed hm
      exact ⟨met, hmet⟩
    · rintro ⟨met, hmet⟩
      obtain ⟨m, hm, -⟩ := hmet.merges (hmet.nodup List.nodup_nil hno) hparts
      exact ⟨_, Except.bind_eq_ok.2 ⟨m, hm, rfl⟩⟩

end

/-- Cats and dogs are animals both. -/
def kennel : Document where
  raw := .object [("components", .object [("schemas", .object [
    ("Animal", .object [("type", .string "object"),
      ("properties", .object [("name", .object [("type", .string "string")])])]),
    ("Cat", .object [
      ("allOf", .array [.object [("$ref", .string "#/components/schemas/Animal")]])]),
    ("Dog", .object [
      ("allOf", .array [.object [("$ref", .string "#/components/schemas/Animal")]])])])])]
  spec := default

/-- What is a cat and a dog, is an animal twice over. -/
def catDog : Keywords Schema where
  allOf := [.ref "#/components/schemas/Cat", .ref "#/components/schemas/Dog"]

/-- One comes back from all parts of the schema, but their common base is reported as a cycle. -/
theorem sharedBase_reported :
    (∃ met, kennel.Passes [] catDog.allOf met) ∧ (∀ r, ¬kennel.Reopens r [] catDog.allOf) ∧
      kennel.mergeAllOf 3 catDog =
        .error (.malformed (.allOfCycle "#/components/schemas/Animal")) := by
  have base : ∀ child, child ≠ "#/components/schemas/Animal" →
      kennel.Passes [child] [.ref "#/components/schemas/Animal"] ["#/components/schemas/Animal"] := by
    intro child hchild
    refine .object (k := {
      type := some .object, properties := [("name", .inline { type := some .string })] })
      (by simpa [Schema.link] using hchild.symm) rfl rfl .nil .nil
  have passes : kennel.Passes [] catDog.allOf _ :=
    .object (by simp) rfl rfl (base "#/components/schemas/Cat" (by decide))
      (.object (by simp) rfl rfl (base "#/components/schemas/Dog" (by decide)) .nil)
  exact ⟨⟨_, passes⟩, fun r => passes.not_reopens, rfl⟩

end Document

end OpenApi

import OpenApi.Proofs.Document.Ends

/-!
Where chains of references lead. From a part of a document there is one chain: each reference leads to the
part that is read where it points to, until there is a part that is none, a reference that cannot be
followed, or one that has been met before. `Outcome` says what comes of each of these, and nothing else
comes of following references (`deref_follows`).
-/

namespace OpenApi.Document

section

variable {ν α : Type} {doc : Document} {kind : Kind ν α}

/-- From `node` the references of the chain lead to `last`: each of them is resolved and read as the next
part. -/
inductive Leads (doc : Document) (kind : Kind ν α) : ν → List String → ν → Prop
  | refl (node : ν) : Leads doc kind node [] node
  | step {node next last : ν} {reference : String} {chain : List String}
      (view_eq : kind.view node = .inl reference)
      (next_eq : doc.resolveAs reference kind.name kind.decode = .ok next)
      (more : Leads doc kind next chain last) : Leads doc kind node (reference :: chain) last

/-- No reference leads on from the part: it is none itself, or it cannot be followed. -/
def IsEnd (doc : Document) (kind : Kind ν α) (node : ν) : Prop :=
  ∀ reference, kind.view node = .inl reference →
    ∃ cause, doc.resolveAs reference kind.name kind.decode = .error cause

/-- What comes of the chain that starts at a part. -/
inductive Outcome (doc : Document) (kind : Kind ν α) (start : ν) : Except CompileError α → Prop
  | part {chain : List String} {last : ν} {part : α} (leads : Leads doc kind start chain last)
      (view_eq : kind.view last = .inr part) : Outcome doc kind start (.ok part)
  | unresolved {chain : List String} {last : ν} {reference : String} {cause : ResolveError}
      (leads : Leads doc kind start chain last) (view_eq : kind.view last = .inl reference)
      (nodup : (chain ++ [reference]).Nodup)
      (cause_eq : doc.resolveAs reference kind.name kind.decode = .error cause) :
      Outcome doc kind start (.error (.unresolved cause))
  | cycle {chain : List String} {last : ν} {reference : String}
      (leads : Leads doc kind start chain last) (view_eq : kind.view last = .inl reference)
      (nodup : chain.Nodup) (again : reference ∈ chain) :
      Outcome doc kind start (.error (.malformed (.referenceCycle kind.name chain)))

/-! ## One chain -/

namespace Leads

variable {node next last last' : ν} {reference : String} {chain chain' : List String}

theorem concat (h : doc.Leads kind node chain last) (view_eq : kind.view last = .inl reference)
    (next_eq : doc.resolveAs reference kind.name kind.decode = .ok next) :
    doc.Leads kind node (chain ++ [reference]) next := by
  induction h with
  | refl => exact .step view_eq next_eq (.refl next)
  | step view_eq' next_eq' _ ih => exact .step view_eq' next_eq' (ih view_eq)

/-- Of two stretches of the chain from a part, one goes on where the other leaves off. -/
theorem total (h : doc.Leads kind node chain last) (h' : doc.Leads kind node chain' last') :
    (∃ rest, chain' = chain ++ rest ∧ doc.Leads kind last rest last') ∨
      ∃ rest, chain = chain' ++ rest ∧ doc.Leads kind last' rest last := by
  induction h generalizing chain' with
  | refl => exact .inl ⟨chain', rfl, h'⟩
  | @step node next last reference chain view_eq next_eq more ih =>
    cases h' with
    | refl => exact .inr ⟨reference :: chain, rfl, .step view_eq next_eq more⟩
    | step view_eq' next_eq' more' =>
      cases view_eq.symm.trans view_eq'
      cases next_eq.symm.trans next_eq'
      rcases ih more' with ⟨rest, rfl, hrest⟩ | ⟨rest, rfl, hrest⟩
      · exact .inl ⟨rest, rfl, hrest⟩
      · exact .inr ⟨rest, rfl, hrest⟩

/-- A chain begins with the reference that its first part is. -/
theorem head_eq (h : doc.Leads kind node (reference :: chain) last) :
    kind.view node = .inl reference ∧ ∃ next,
      doc.resolveAs reference kind.name kind.decode = .ok next ∧ doc.Leads kind next chain last := by
  cases h with
  | step view_eq next_eq more => exact ⟨view_eq, _, next_eq, more⟩

/-- A chain leads no further than to an end. -/
theorem eq_nil_of_isEnd (h : doc.Leads kind node chain last) (hend : doc.IsEnd kind node) :
    chain = [] ∧ last = node := by
  cases h with
  | refl => exact ⟨rfl, rfl⟩
  | step view_eq next_eq _ =>
    obtain ⟨cause, hcause⟩ := hend _ view_eq
    rw [next_eq] at hcause
    cases hcause

/-- There is one end, and one way to it. -/
theorem unique (h : doc.Leads kind node chain last) (hend : doc.IsEnd kind last)
    (h' : doc.Leads kind node chain' last') (hend' : doc.IsEnd kind last') :
    chain' = chain ∧ last' = last := by
  rcases h.total h' with ⟨rest, rfl, hrest⟩ | ⟨rest, rfl, hrest⟩
  · obtain ⟨rfl, rfl⟩ := hrest.eq_nil_of_isEnd hend
    exact ⟨List.append_nil chain, rfl⟩
  · obtain ⟨rfl, rfl⟩ := hrest.eq_nil_of_isEnd hend'
    exact ⟨(List.append_nil chain').symm, rfl⟩

/-- The part that a reference of the chain is met at, and the rest of the chain from there. -/
theorem split {before after : List String}
    (h : doc.Leads kind node (before ++ reference :: after) last) :
    ∃ middle, doc.Leads kind node before middle ∧
      doc.Leads kind middle (reference :: after) last := by
  induction before generalizing node with
  | nil => exact ⟨node, .refl node, h⟩
  | cons first before ih =>
    obtain ⟨view_eq, next, next_eq, more⟩ := h.head_eq
    obtain ⟨middle, hbefore, hafter⟩ := ih more
    exact ⟨middle, .step view_eq next_eq hbefore, hafter⟩

/-- Where a reference is met again the chain goes on as it did the first time, so a chain that comes to
an end meets none again. -/
theorem nodup (h : doc.Leads kind node chain last) (hend : doc.IsEnd kind last) : chain.Nodup := by
  induction h with
  | refl => exact List.nodup_nil
  | @step node next last reference chain view_eq next_eq more ih =>
    refine List.nodup_cons.2 ⟨fun hagain => ?_, ih hend⟩
    obtain ⟨before, after, rfl⟩ := List.append_of_mem hagain
    obtain ⟨middle, _, hafter⟩ := more.split
    obtain ⟨_, next', next_eq', hafter⟩ := hafter.head_eq
    cases next_eq.symm.trans next_eq'
    -- The way from the second meeting is a shorter way to the same end.
    have hlength := congrArg List.length (more.unique hend hafter hend).1
    simp at hlength
    omega

end Leads

/-! ## What comes of it -/

theorem isEnd_of_view_eq_inr {node : ν} {part : α} (h : kind.view node = .inr part) :
    doc.IsEnd kind node := fun _ hview => by
  rw [h] at hview
  cases hview

theorem isEnd_of_resolveAs_eq_error {node : ν} {reference : String} {cause : ResolveError}
    (h : kind.view node = .inl reference)
    (hcause : doc.resolveAs reference kind.name kind.decode = .error cause) :
    doc.IsEnd kind node := fun _ hview => by
  cases h.symm.trans hview
  exact ⟨cause, hcause⟩

/-- A chain that meets a reference again has no end. -/
theorem Leads.not_isEnd_of_mem {start last other : ν} {reference : String} {chain chain' : List String}
    (h : doc.Leads kind start chain last) (view_eq : kind.view last = .inl reference)
    (again : reference ∈ chain) (h' : doc.Leads kind start chain' other) : ¬doc.IsEnd kind other := by
  -- the reference has been resolved before
  have hlast : ¬doc.IsEnd kind last := fun hend => by
    obtain ⟨before, after, rfl⟩ := List.append_of_mem again
    obtain ⟨_, _, hafter⟩ := h.split
    obtain ⟨_, _, next_eq, _⟩ := hafter.head_eq
    obtain ⟨_, hcause⟩ := hend _ view_eq
    rw [next_eq] at hcause
    cases hcause
  intro hend
  -- A chain that goes on from `last` has the reference a second time; a shorter one has not ended.
  rcases h.total h' with ⟨rest, rfl, hrest⟩ | ⟨rest, rfl, hrest⟩
  · cases hrest with
    | refl => exact hlast hend
    | step view_eq' =>
      cases view_eq.symm.trans view_eq'
      exact List.disjoint_of_nodup_append (h'.nodup hend) again List.mem_cons_self
  · obtain ⟨rfl, rfl⟩ := hrest.eq_nil_of_isEnd hend
    exact hlast hend

theorem nodup_concat {chain : List String} {reference : String} (h : chain.Nodup)
    (hnew : reference ∉ chain) : (chain ++ [reference]).Nodup :=
  (List.perm_append_singleton reference chain).nodup_iff.2 (List.nodup_cons.2 ⟨hnew, h⟩)

/-- The same, where the reference at the end need not be the one that is met again. -/
theorem Leads.not_isEnd_of_not_nodup {start last other : ν} {reference : String}
    {chain chain' : List String} (h : doc.Leads kind start chain last)
    (view_eq : kind.view last = .inl reference) (again : ¬(chain ++ [reference]).Nodup)
    (h' : doc.Leads kind start chain' other) : ¬doc.IsEnd kind other := by
  intro hend
  have hnew : reference ∉ chain := fun hmem => h.not_isEnd_of_mem view_eq hmem h' hend
  refine again (nodup_concat ?_ hnew)
  rcases h.total h' with ⟨rest, rfl, _⟩ | ⟨rest, rfl, hrest⟩
  · exact (List.nodup_append.1 (h'.nodup hend)).1
  · obtain ⟨rfl, rfl⟩ := hrest.eq_nil_of_isEnd hend
    exact h.nodup hend

/-- A chain that meets a reference again for the first time does so in one place. -/
theorem Leads.unique_of_mem {start last last' : ν} {reference reference' : String}
    {chain chain' : List String} (h : doc.Leads kind start chain last)
    (view_eq : kind.view last = .inl reference) (again : reference ∈ chain) (hnodup : chain.Nodup)
    (h' : doc.Leads kind start chain' last') (view_eq' : kind.view last' = .inl reference')
    (again' : reference' ∈ chain') (hnodup' : chain'.Nodup) : chain' = chain := by
  -- the longer one would meet the reference of the shorter one twice
  have longer {last : ν} {reference : String} {chain rest : List String}
      (view_eq : kind.view last = .inl reference) (again : reference ∈ chain) {other : ν}
      (hnodup : (chain ++ rest).Nodup) (hrest : doc.Leads kind last rest other) : rest = [] := by
    cases hrest with
    | refl => rfl
    | step view_eq' =>
      cases view_eq.symm.trans view_eq'
      exact (List.disjoint_of_nodup_append hnodup again List.mem_cons_self).elim
  rcases h.total h' with ⟨rest, rfl, hrest⟩ | ⟨rest, rfl, hrest⟩
  · rw [longer view_eq again hnodup' hrest, List.append_nil]
  · rw [longer view_eq' again' hnodup hrest, List.append_nil]

namespace Outcome

variable {start : ν} {result result' : Except CompileError α}

/-- One thing comes of the chain from a part. -/
theorem unique (h : doc.Outcome kind start result) (h' : doc.Outcome kind start result') :
    result = result' := by
  cases h with
  | part leads view_eq =>
    have hend : doc.IsEnd kind _ := isEnd_of_view_eq_inr view_eq
    cases h' with
    | part leads' view_eq' =>
      obtain ⟨-, rfl⟩ := leads.unique hend leads' (isEnd_of_view_eq_inr view_eq')
      cases view_eq.symm.trans view_eq'
      rfl
    | unresolved leads' view_eq' _ cause_eq' =>
      obtain ⟨-, rfl⟩ := leads.unique hend leads' (isEnd_of_resolveAs_eq_error view_eq' cause_eq')
      cases view_eq.symm.trans view_eq'
    | cycle leads' view_eq' _ again' =>
      exact absurd hend (leads'.not_isEnd_of_mem view_eq' again' leads)
  | unresolved leads view_eq _ cause_eq =>
    have hend := isEnd_of_resolveAs_eq_error view_eq cause_eq
    cases h' with
    | part leads' view_eq' =>
      obtain ⟨-, rfl⟩ := leads.unique hend leads' (isEnd_of_view_eq_inr view_eq')
      cases view_eq.symm.trans view_eq'
    | unresolved leads' view_eq' _ cause_eq' =>
      obtain ⟨-, rfl⟩ := leads.unique hend leads' (isEnd_of_resolveAs_eq_error view_eq' cause_eq')
      cases view_eq.symm.trans view_eq'
      cases cause_eq.symm.trans cause_eq'
      rfl
    | cycle leads' view_eq' _ again' =>
      exact absurd hend (leads'.not_isEnd_of_mem view_eq' again' leads)
  | cycle leads view_eq nodup again =>
    cases h' with
    | part leads' view_eq' =>
      exact absurd (isEnd_of_view_eq_inr view_eq') (leads.not_isEnd_of_mem view_eq again leads')
    | unresolved leads' view_eq' _ cause_eq' =>
      exact absurd (isEnd_of_resolveAs_eq_error view_eq' cause_eq')
        (leads.not_isEnd_of_mem view_eq again leads')
    | cycle leads' view_eq' nodup' again' =>
      rw [leads.unique_of_mem view_eq again nodup leads' view_eq' again' nodup']

end Outcome

/-- Following the references that are left gives what comes of the whole chain. -/
theorem followRefs_outcome {start node : ν} {seen : List String} {fuel : Nat}
    (leads : doc.Leads kind start seen node) (hnodup : seen.Nodup)
    (hends : doc.followRefs kind seen node fuel ≠ .error .tooDeep) :
    doc.Outcome kind start (doc.followRefs kind seen node fuel) := by
  induction fuel generalizing seen node with
  | zero => exact absurd rfl hends
  | succ fuel ih =>
    unfold followRefs at hends ⊢
    cases hview : kind.view node with
    | inr part => exact .part leads hview
    | inl reference =>
      rw [hview] at hends
      dsimp only at hends ⊢
      split
      case isTrue hseen => exact .cycle leads hview hnodup hseen
      case isFalse hseen =>
        rw [if_neg hseen] at hends
        have hnodup := nodup_concat hnodup hseen
        cases hnext : doc.resolveAs reference kind.name kind.decode with
        | error cause => exact .unresolved leads hview hnodup hnext
        | ok next =>
          rw [hnext] at hends
          exact ih (leads.concat hview hnext) hnodup hends

theorem deref_outcome (doc : Document) (kind : Kind ν α) (node : ν) :
    doc.Outcome kind node (doc.deref kind node) := by
  have hends := doc.deref_ne_tooDeep kind node
  unfold deref at hends ⊢
  split
  case h_1 part hview => exact .part (.refl node) hview
  case h_2 reference hview =>
    rw [hview] at hends
    exact followRefs_outcome (.refl node) List.nodup_nil hends

theorem deref_eq_iff {node : ν} {result : Except CompileError α} :
    doc.deref kind node = result ↔ doc.Outcome kind node result :=
  ⟨fun h => h ▸ doc.deref_outcome kind node, fun h => (doc.deref_outcome kind node).unique h⟩

/-- A cycle is reported if the chain meets a reference again, and only then. -/
theorem deref_cycle_iff {node : ν} :
    (∃ chain, doc.deref kind node = .error (.malformed (.referenceCycle kind.name chain))) ↔
      ∃ chain last reference, doc.Leads kind node chain last ∧ kind.view last = .inl reference ∧
        ¬(chain ++ [reference]).Nodup := by
  constructor
  case mp =>
    rintro ⟨chain, h⟩
    cases deref_eq_iff.1 h with
    | cycle leads view_eq _ again =>
      refine ⟨chain, _, _, leads, view_eq, fun hnodup => ?_⟩
      exact List.disjoint_of_nodup_append hnodup again List.mem_cons_self
  case mpr =>
    rintro ⟨chain, last, reference, leads, view_eq, again⟩
    generalize hresult : doc.deref kind node = result
    cases deref_eq_iff.1 hresult with
    | part leads' view_eq' =>
      exact absurd (isEnd_of_view_eq_inr view_eq')
        (leads.not_isEnd_of_not_nodup view_eq again leads')
    | unresolved leads' view_eq' _ cause_eq' =>
      exact absurd (isEnd_of_resolveAs_eq_error view_eq' cause_eq')
        (leads.not_isEnd_of_not_nodup view_eq again leads')
    | cycle => exact ⟨_, rfl⟩

end

/-- Chains of a kind of part are followed to what comes of them, however long they are, and to a reference
never; `ref` makes the references of the kind. -/
structure Follows {ν α : Type} (doc : Document) (kind : Kind ν α) (ref : String → ν) : Prop where
  ends (node : ν) : doc.deref kind node ≠ .error .tooDeep
  outcome (node : ν) (result : Except CompileError α) :
    doc.deref kind node = result ↔ doc.Outcome kind node result
  direct (node : ν) (part : α) : doc.deref kind node = .ok part →
    ∃ chain last, doc.Leads kind node chain last ∧ kind.view last = .inr part ∧
      ∀ reference, last ≠ ref reference
  cycle (node : ν) :
    (∃ chain, doc.deref kind node = .error (.malformed (.referenceCycle kind.name chain))) ↔
      ∃ chain last reference, doc.Leads kind node chain last ∧ last = ref reference ∧
        ¬(chain ++ [reference]).Nodup

theorem follows_of_view {ν α : Type} {kind : Kind ν α} {ref : String → ν} (doc : Document)
    (h : ∀ node reference, kind.view node = .inl reference ↔ node = ref reference) :
    doc.Follows kind ref where
  ends := doc.deref_ne_tooDeep kind
  outcome _ _ := deref_eq_iff
  direct node part hpart := by
    cases deref_eq_iff.1 hpart with
    | part leads view_eq =>
      refine ⟨_, _, leads, view_eq, fun reference hlast => ?_⟩
      rw [(h _ _).2 hlast] at view_eq
      cases view_eq
  cycle node := by simp only [deref_cycle_iff, h]

theorem viewRef_eq_inl {α : Type} (node : RefOr α) (reference : String) :
    Kind.viewRef node = .inl reference ↔ node = .ref reference := by
  cases node <;> simp [Kind.viewRef]

theorem schema_view_eq_inl (node : Schema) (reference : String) :
    Kind.schema.view node = .inl reference ↔ node = .ref reference := by
  cases node <;> simp [Kind.schema]

/-- In every document the chains of all kinds of parts that may be references are followed: to the part
that is no reference, to the first failure, or to the first reference that is met again. -/
theorem deref_follows (doc : Document) :
    doc.Follows .schema .ref ∧ doc.Follows .parameter .ref ∧ doc.Follows .requestBody .ref ∧
      doc.Follows .response .ref ∧ doc.Follows .header .ref :=
  ⟨doc.follows_of_view schema_view_eq_inl, doc.follows_of_view viewRef_eq_inl,
    doc.follows_of_view viewRef_eq_inl, doc.follows_of_view viewRef_eq_inl,
    doc.follows_of_view viewRef_eq_inl⟩

end OpenApi.Document

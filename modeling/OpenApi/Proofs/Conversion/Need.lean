import Mathlib
import OpenApi.Proofs.Conversion.Answers

/-!
Which references lead to schemas with something to convert. The question is answered by a search
that treats what it is already asking about as having nothing to convert, and that remembers some of
its answers. The answers are nevertheless those of the least solution of the equations that the
conversions make: a reference is needed if the conversion of the schema behind it writes something,
where the references inside are answered by that solution (`needsConversion_isLeast`).
-/

namespace OpenApi

open Classical in
/-- The conversion of a value of a schema where `N` answers which references lead to schemas with
something to convert. -/
noncomputable def Compiler.convertAnswering (c : Compiler) (d : Direction) (N : Set String) :
    Nat → Convert :=
  c.convertWith d fun _ reference => pure (decide (reference ∈ N))

/-- The references that lead to schemas with something to convert, where `N` answers for the
references inside these schemas. -/
def Compiler.needing (c : Compiler) (d : Direction) (N : Set String) : Set String :=
  {r | ∃ target depth code s, c.document.resolveAs r "schema" Schema.decode = .ok target ∧
    c.convertAnswering d N depth target "value" {} = .ok (some code, s)}

/-- The questions that a compiler can have asked between two conversions, if none of them failed. -/
inductive Compiler.History (c : Compiler) : Probes → Prop
  | start : History c {}
  | needsConversion {d : Direction} {r : String} {b : Bool} {s s' : Progress}
      (before : History c s.probes) (h : c.needsConversion d r s = .ok (b, s')) :
      History c s'.probes
  | convert {d : Direction} {schema : Schema} {value : Code} {converted : Option Code}
      {s s' : Progress} (before : History c s.probes)
      (h : c.convert? d schema value s = .ok (converted, s')) : History c s'.probes

/-! ## What there is to convert -/

/-- The schema has something to convert, where `N` answers for references. -/
inductive Changed (c : Compiler) (d : Direction) (N : Set String) : Schema → Prop
  | ref {r : String} (h : r ∈ N) : Changed c d N (.ref r)
  | own {k : Keywords Schema} {o : Outline} (outlined : c.Outlined k o) (h : o.converts d) :
      Changed c d N (.inline k)
  | inner {k : Keywords Schema} {o : Outline} (outlined : c.Outlined k o) {schema : Schema}
      (mem : schema ∈ o.inner) (h : Changed c d N schema) : Changed c d N (.inline k)

namespace Changed

variable {c : Compiler} {d : Direction} {N N' : Set String} {k : Keywords Schema} {o : Outline}

theorem mono (hN : N ⊆ N') {schema : Schema} (h : Changed c d N schema) : Changed c d N' schema := by
  induction h with
  | ref h => exact .ref (hN h)
  | own outlined h => exact .own outlined h
  | inner outlined mem _ ih => exact .inner outlined mem ih

theorem ref_iff {r : String} : Changed c d N (.ref r) ↔ r ∈ N :=
  ⟨fun h => by cases h; assumption, .ref⟩

theorem not_bool {accepts : Bool} : ¬Changed c d N (.bool accepts) := nofun

theorem inline_iff (ho : c.Outlined k o) :
    Changed c d N (.inline k) ↔ o.converts d ∨ ∃ schema ∈ o.inner, Changed c d N schema := by
  constructor
  · intro h
    cases h with
    | own outlined h => exact .inl (ho.unique outlined ▸ h)
    | inner outlined mem h => exact .inr ⟨_, ho.unique outlined ▸ mem, h⟩
  · rintro (h | ⟨schema, mem, h⟩)
    · exact .own ho h
    · exact .inner ho mem h

end Changed

/-! ## The least solution -/

section

variable (c : Compiler) (d : Direction)

/-- The equations for the references that are needed, without those in `A`. -/
def needs (A : Set String) : Set String →o Set String where
  toFun N := {r | r ∉ A ∧ ∃ target, c.document.resolveAs r "schema" Schema.decode = .ok target ∧
    Convertible c d Set.univ target ∧ Changed c d N target}
  monotone' N N' hN r h := by
    obtain ⟨hA, target, htarget, hc, h⟩ := h
    exact ⟨hA, target, htarget, hc, h.mono hN⟩

/-- The references that are needed without help of those in `A`. -/
def needed (A : Set String) : Set String := (needs c d A).lfp

variable {c d} {A B : Set String} {r : String}

theorem mem_needed : r ∈ needed c d A ↔ r ∉ A ∧ ∃ target,
    c.document.resolveAs r "schema" Schema.decode = .ok target ∧ Convertible c d Set.univ target ∧
      Changed c d (needed c d A) target := by
  show r ∈ (needs c d A).lfp ↔ _
  rw [← (needs c d A).map_lfp]
  rfl

theorem needed_anti (h : A ⊆ B) : needed c d B ⊆ needed c d A :=
  OrderHom.lfp.mono fun _ _ hr => ⟨fun hA => hr.1 (h hA), hr.2⟩

/-- What does not help its own schema helps no other. -/
theorem needed_subset_insert {target : Schema}
    (htarget : c.document.resolveAs r "schema" Schema.decode = .ok target)
    (h : ¬Changed c d (needed c d (insert r A)) target) :
    needed c d A ⊆ needed c d (insert r A) := by
  refine OrderHom.lfp_le _ fun q hq => ?_
  obtain ⟨hA, target', htarget', hc, hq⟩ := hq
  refine mem_needed.2 ⟨?_, target', htarget', hc, hq⟩
  rintro (rfl | hA')
  · rw [htarget] at htarget'
    cases htarget'
    exact h hq
  · exact hA hA'

end

/-! ## The search -/

/-- The open references from a floor on. -/
def fromFloor (opened : List String) (floor : Option Nat) : Set String :=
  {r | ∃ place ∈ floor, r ∈ opened.drop place}

theorem mem_drop_of_idxOf? {opened : List String} {r : String} {place : Nat}
    (h : opened.idxOf? r = some place) : r ∈ opened.drop place := by
  obtain ⟨hlt, heq, _⟩ := List.findIdx?_eq_some_iff_getElem.1 h
  rw [List.drop_eq_getElem_cons hlt, eq_of_beq heq]
  exact List.mem_cons_self

theorem fromFloor_some {opened : List String} {place : Nat} {r : String} :
    r ∈ fromFloor opened (some place) ↔ r ∈ opened.drop place := by
  simp [fromFloor]

theorem fromFloor_anti (opened : List String) {i j : Nat} (h : i ≤ j) :
    fromFloor opened (some j) ⊆ fromFloor opened (some i) := fun _ hr =>
  fromFloor_some.2 (List.drop_subset_drop_left opened h (fromFloor_some.1 hr))

theorem fromFloor_outermost (opened : List String) (floor floor' : Option Nat) :
    fromFloor opened (outermost floor floor') = fromFloor opened floor ∪ fromFloor opened floor' := by
  have hnone : fromFloor opened none = ∅ := by simp [fromFloor]
  rcases floor with _ | i <;> rcases floor' with _ | j
  · simp [outermost, hnone]
  · simp [outermost, hnone]
  · simp [outermost, hnone]
  · rcases Nat.le_total i j with h | h
    · rw [outermost, min_eq_left h, Set.union_eq_left.2 (fromFloor_anti opened h)]
    · rw [outermost, min_eq_right h, Set.union_eq_right.2 (fromFloor_anti opened h)]

theorem fromFloor_opening (opened : List String) (r : String) (floor : Option Nat) :
    fromFloor (opened ++ [r]) floor ⊆ insert r (fromFloor opened floor) := by
  rintro q ⟨place, hplace, hq⟩
  rw [List.drop_append] at hq
  rcases List.mem_append.1 hq with hq | hq
  · exact .inr ⟨place, hplace, hq⟩
  · exact .inl (List.mem_singleton.1 (List.mem_of_mem_drop hq))

namespace Probes

/-- The references that answers may have leant on. -/
def leaned (p : Probes) : Set String := fromFloor p.opened p.floor

theorem leaned_leanOn (p : Probes) (place : Nat) :
    (p.leanOn place).leaned = p.leaned ∪ fromFloor p.opened (some place) :=
  fromFloor_outermost p.opened p.floor (some place)

theorem leaned_closing (p : Probes) (d : Direction) (r : String) (b : Bool) (q : Probes) :
    (p.closing d r b q).leaned = p.leaned ∪ fromFloor p.opened q.floor :=
  fromFloor_outermost p.opened p.floor q.floor

end Probes

namespace Answers

variable {c : Compiler} {d : Direction} {xs : List Schema} {p p' : Probes} {bs : List Bool}

/-- A search closes what it opens. -/
theorem opened_eq (h : Answers c d xs p bs p') : p'.opened = p.opened := by
  induction h with
  | nil => rfl
  | bool _ ih => exact ih
  | settled _ _ ih => exact ih
  | opened _ _ ih => exact ih
  | probed _ _ _ _ _ ih => exact ih
  | inline _ _ _ _ _ ih ih' => exact ih'.trans ih

/-- What an answer leant on is not forgotten while the question it was asked for is open. -/
theorem leaned_subset (h : Answers c d xs p bs p') : p.leaned ⊆ p'.leaned := by
  induction h with
  | nil => exact subset_rfl
  | bool _ ih => exact ih
  | settled _ _ ih => exact ih
  | opened _ _ ih => exact (Probes.leaned_leanOn _ _ ▸ Set.subset_union_left).trans ih
  | probed _ _ _ _ _ ih => exact (Probes.leaned_closing _ _ _ _ _ ▸ Set.subset_union_left).trans ih
  | inline _ _ _ _ _ ih ih' => exact ih.trans ih'

end Answers

/-- The settled answers are those of the least solution. -/
def Probes.Sound (c : Compiler) (p : Probes) : Prop :=
  ∀ r d b, p.settled.lookup (r, d) = some b → (b = true ↔ r ∈ needed c d ∅)

/-- An answer for a schema: a yes is right, and a no is right as long as the references in `A` are
not needed. -/
def Right (c : Compiler) (d : Direction) (A : Set String) (schema : Schema) (b : Bool) : Prop :=
  (b = true → Changed c d (needed c d ∅) schema) ∧
    (b = false → ¬Changed c d (needed c d A) schema)

section

variable {c : Compiler} {d : Direction} {p q : Probes} {r : String} {target : Schema} {b : Bool}

theorem Right.mono {A B : Set String} {schema : Schema} (hAB : A ⊆ B)
    (h : Right c d A schema b) : Right c d B schema b :=
  ⟨h.1, fun hb hB => h.2 hb (hB.mono (needed_anti hAB))⟩

/-- The answer to a question about a reference, from that of the search for the schema behind it. -/
theorem Right.ref (htarget : c.document.resolveAs r "schema" Schema.decode = .ok target)
    (hq : q.opened = p.opened ++ [r]) (hc : Convertible c d Set.univ target)
    (h : Right c d q.leaned target b) :
    Right c d (fromFloor p.opened q.floor) (.ref r) b := by
  constructor
  · intro hb
    exact .ref (mem_needed.2 ⟨Set.notMem_empty r, target, htarget, hc, h.1 hb⟩)
  · intro hb hr
    have hleaned : q.leaned ⊆ insert r (fromFloor p.opened q.floor) := by
      rw [Probes.leaned, hq]
      exact fromFloor_opening p.opened r q.floor
    have hno : ¬Changed c d (needed c d (insert r (fromFloor p.opened q.floor))) target :=
      fun hr => h.2 hb (hr.mono (needed_anti hleaned))
    obtain ⟨_, target', htarget', _, hr⟩ := mem_needed.1 (Changed.ref_iff.1 hr)
    rw [htarget] at htarget'
    cases htarget'
    exact hno (hr.mono (needed_subset_insert htarget hno))

/-- An answer that holds for good leant on no question that stays open. -/
theorem fromFloor_of_isFinal (h : p.isFinal false q = true) : fromFloor p.opened q.floor = ∅ := by
  unfold Probes.isFinal at h
  cases hfloor : q.floor with
  | none => simp [fromFloor]
  | some place =>
    have hle : p.opened.length ≤ place := by simpa [hfloor] using h
    simp [fromFloor, List.drop_eq_nil_of_le hle]

/-- A question that is closed leaves right answers behind. -/
theorem Probes.Sound.closing (hq : q.Sound c)
    (h : Right c d (fromFloor p.opened q.floor) (.ref r) b) : (p.closing d r b q).Sound c := by
  intro r' d' b' known
  rcases Probes.lookup_closing known with ⟨hfinal, heq, rfl⟩ | known
  · cases heq
    cases b' with
    | true => exact iff_of_true rfl (Changed.ref_iff.1 (h.1 rfl))
    | false =>
      rw [fromFloor_of_isFinal hfinal] at h
      exact iff_of_false nofun fun hr => h.2 rfl (.ref hr)
  · exact hq r' d' b' known

end

theorem mem_answers {P : Schema → Prop} {xs : List Schema} {bs : List Bool}
    (h : List.Forall₂ (fun schema b => b = true ↔ P schema) xs bs) :
    true ∈ bs ↔ ∃ schema ∈ xs, P schema := by
  induction h with
  | nil => simp
  | cons hb _ ih => rw [List.mem_cons, List.exists_mem_cons_iff, ih, ← hb, eq_comm]

/-- The answers for several schemas. -/
theorem Right.any {c : Compiler} {d : Direction} {A : Set String} {xs : List Schema}
    {bs : List Bool} (h : List.Forall₂ (Right c d A) xs bs) :
    (true ∈ bs → ∃ schema ∈ xs, Changed c d (needed c d ∅) schema) ∧
      (true ∉ bs → ∀ schema ∈ xs, ¬Changed c d (needed c d A) schema) := by
  induction h with
  | nil => exact ⟨by simp, by simp⟩
  | @cons schema b xs bs hb _ ih =>
    constructor
    · intro hmem
      rcases List.mem_cons.1 hmem with heq | hmem
      · exact ⟨schema, by simp, hb.1 heq.symm⟩
      · obtain ⟨schema', hmem', h⟩ := ih.1 hmem
        exact ⟨schema', by simp [hmem'], h⟩
    · intro hno
      obtain ⟨hfalse, hrest⟩ : b = false ∧ true ∉ bs := by simpa using hno
      exact List.forall_mem_cons.2 ⟨hb.2 hfalse, ih.2 hrest⟩

/-- The answer for a schema object, from those for the schemas inside. -/
theorem Right.inline {c : Compiler} {d : Direction} {A : Set String} {k : Keywords Schema}
    {o : Outline} {b : Bool} {inner : List Bool} (outlined : c.Outlined k o)
    (answer : b = true ↔ o.converts d ∨ true ∈ inner)
    (h : List.Forall₂ (Right c d A) o.inner inner) : Right c d A (.inline k) b := by
  constructor
  · intro hb
    rcases answer.1 hb with hown | hmem
    · exact .own outlined hown
    · obtain ⟨schema, hmem, h⟩ := (Right.any h).1 hmem
      exact .inner outlined hmem h
  · rintro rfl hchanged
    obtain ⟨hown, hno⟩ : ¬o.converts d ∧ true ∉ inner := by simpa using answer
    rcases (Changed.inline_iff outlined).1 hchanged with h' | ⟨schema, hmem, h'⟩
    · exact hown h'
    · exact (Right.any h).2 hno schema hmem h'

/-- A search gives right answers and settles none but right ones. -/
theorem Answers.right {c : Compiler} {d : Direction} {xs : List Schema} {p p' : Probes}
    {bs : List Bool} (h : Answers c d xs p bs p') (hp : p.Sound c) :
    p'.Sound c ∧ List.Forall₂ (Right c d p'.leaned) xs bs := by
  induction h with
  | nil => exact ⟨hp, .nil⟩
  | bool _ ih =>
    obtain ⟨hp', hrest⟩ := ih hp
    exact ⟨hp', .cons ⟨nofun, fun _ => Changed.not_bool⟩ hrest⟩
  | @settled r _ p _ b _ known more ih =>
    obtain ⟨hp', hrest⟩ := ih hp
    have hb := hp r d b known
    refine ⟨hp', .cons ⟨fun h => .ref (hb.1 h), fun h hr => ?_⟩ hrest⟩
    have := hb.2 (needed_anti (Set.empty_subset _) (Changed.ref_iff.1 hr))
    simp [h] at this
  | @opened r _ p p' place _ found more ih =>
    obtain ⟨hp', hrest⟩ := ih hp
    refine ⟨hp', .cons ⟨nofun, fun _ hr => ?_⟩ hrest⟩
    have hmem : r ∈ (p.leanOn place).leaned := by
      rw [Probes.leaned_leanOn]
      exact .inr (fromFloor_some.2 (mem_drop_of_idxOf? found))
    exact (mem_needed.1 (Changed.ref_iff.1 hr)).1 (more.leaned_subset hmem)
  | @probed r target _ p q p' b _ new htarget inside more ih ih' =>
    obtain ⟨hq, hinside⟩ := ih hp
    cases hinside with
    | cons hright _ =>
    have href := hright.ref htarget inside.opened_eq (inside.convertible target (by simp))
    obtain ⟨hp', hrest⟩ := ih' (hq.closing href)
    refine ⟨hp', .cons (href.mono (subset_trans ?_ more.leaned_subset)) hrest⟩
    rw [Probes.leaned_closing]
    exact Set.subset_union_right
  | @inline k o _ p q p' b inner _ outlined testable inside answer more ih ih' =>
    obtain ⟨hq, hinside⟩ := ih hp
    obtain ⟨hp', hrest⟩ := ih' hq
    exact ⟨hp', .cons ((Right.inline outlined answer hinside).mono more.leaned_subset) hrest⟩

/-- While no question is open, the answer about a reference is that of the least solution. -/
theorem Answers.ref_iff {c : Compiler} {d : Direction} {r : String} {p p' : Probes} {b : Bool}
    (h : Answers c d [.ref r] p [b] p') (hp : p.Sound c) (hopened : p.opened = []) :
    b = true ↔ r ∈ needed c d ∅ := by
  have hleaned : p'.leaned = ∅ := by simp [Probes.leaned, h.opened_eq, hopened, fromFloor]
  obtain ⟨_, hright⟩ := h.right hp
  rw [hleaned] at hright
  cases hright with
  | cons hr _ =>
  cases b with
  | true => exact iff_of_true rfl (Changed.ref_iff.1 (hr.1 rfl))
  | false => exact iff_of_false nofun fun h => hr.2 rfl (.ref h)

/-! ## Conversions where references are answered for -/

section

variable {c : Compiler} {d : Direction} {N : Set String}

theorem convertAnswering_of_mem {r : String} (hr : r ∈ N) (depth : Nat) (value : Code) :
    c.convertAnswering d N (depth + 1) (.ref r) value = (do
      let function ← c.functionName d r
      return some (Code.cat [function, value.parens])) := by
  simp [Compiler.convertAnswering, Compiler.convertWith, Compiler.convertRef, hr]

theorem convertAnswering_of_notMem {r : String} (hr : r ∉ N) (depth : Nat) (value : Code) :
    c.convertAnswering d N (depth + 1) (.ref r) value = pure none := by
  simp [Compiler.convertAnswering, Compiler.convertWith, Compiler.convertRef, hr]

/-- A conversion that does not fail has something to convert just if its schema has. -/
theorem convertAnswering_eq_ok {depth : Nat} {schema : Schema} {value : Code}
    {converted : Option Code} {s s' : Progress}
    (h : c.convertAnswering d N depth schema value s = .ok (converted, s')) :
    Convertible c d Set.univ schema ∧ (converted.isSome = true ↔ Changed c d N schema) := by
  induction depth generalizing schema value converted s s' with
  | zero => cases h
  | succ depth ih =>
    cases schema with
    | bool accepts => cases h; exact ⟨.bool accepts, iff_of_false nofun Changed.not_bool⟩
    | ref r =>
      refine ⟨.ref (Set.mem_univ r), ?_⟩
      rw [Changed.ref_iff]
      by_cases hr : r ∈ N
      · rw [convertAnswering_of_mem hr] at h
        obtain ⟨name, s₁, _, h⟩ := Compile.bind_eq_ok.1 h
        cases h
        exact iff_of_true rfl hr
      · rw [convertAnswering_of_notMem hr] at h
        cases h
        exact iff_of_false nofun hr
    | inline k =>
      obtain ⟨r, s₁, hk, h⟩ := Compile.bind_eq_ok.1 h
      obtain ⟨o, answers, s₂, ctx, ho, ht, hw, rfl, hiff⟩ := Compiler.convertKeywords_eq_ok hk
      have hinner : List.Forall₂
          (fun schema b => Convertible c d Set.univ schema ∧ (b = true ↔ Changed c d N schema))
          o.inner answers := hw.forall₂ fun _ _ _ _ _ h => ih h
      obtain ⟨hconvertible, hchanged⟩ := (List.forall₂_and_left _ _).1 hinner
      refine ⟨.inline ho ht hconvertible, ?_⟩
      rw [Changed.inline_iff ho, ← mem_answers hchanged, ← hiff]
      cases h
      split
      · simp
      · rfl

/-- The conversion of a convertible schema comes to an end, if references lead to schemas. -/
theorem Convertible.convertAnswering_ok {schema : Schema} (h : Convertible c d Set.univ schema)
    (hN : ∀ r ∈ N, ∃ name, c.document.refName r = .ok name) :
    ∃ n, ∀ depth ≥ n, ∀ value s, ∃ converted s',
      c.convertAnswering d N depth schema value s = .ok (converted, s') := by
  induction h with
  | bool accepts =>
    refine ⟨1, fun depth hdepth value s => ?_⟩
    obtain ⟨depth, rfl⟩ := Nat.exists_eq_add_of_le' hdepth
    exact ⟨none, s, rfl⟩
  | @ref r _ =>
    refine ⟨1, fun depth hdepth value s => ?_⟩
    obtain ⟨depth, rfl⟩ := Nat.exists_eq_add_of_le' hdepth
    by_cases hr : r ∈ N
    · obtain ⟨name, hname⟩ := hN r hr
      obtain ⟨ctx, happly⟩ := Compiler.functionName_apply (c := c) (d := d) hname s
      rw [convertAnswering_of_mem hr]
      exact ⟨_, _, Compile.bind_apply_of_ok happly⟩
    · rw [convertAnswering_of_notMem hr]
      exact ⟨none, s, rfl⟩
  | @inline k o outlined testable inside ih =>
    obtain ⟨m, hm⟩ := outlined
    obtain ⟨n, hn⟩ := exists_depth ih
    refine ⟨max m n + 1, fun depth hdepth value s => ?_⟩
    obtain ⟨depth, rfl⟩ := Nat.exists_eq_add_of_le' (le_trans (Nat.le_add_left 1 _) hdepth)
    have hle : max m n ≤ depth := Nat.le_of_add_le_add_right hdepth
    have ho := Compiler.outline_of_le hm (le_trans (le_max_left m n) hle)
    obtain ⟨r, s', hr⟩ := Compiler.convertKeywords_ok ho testable
      (hn depth (le_trans (le_max_right m n) hle)) value s
    exact ⟨_, _, Compile.bind_apply_of_ok hr⟩

theorem refName_of_resolveAs {doc : Document} {r : String} {target : Schema}
    (h : doc.resolveAs r "schema" Schema.decode = .ok target) :
    ∃ name, doc.refName r = .ok name := by
  obtain ⟨value, hvalue, _⟩ := Except.bind_eq_ok.1 h
  obtain ⟨segments, hsegments, _⟩ := Except.bind_eq_ok.1 hvalue
  unfold Document.refName
  rw [hvalue]
  cases htitle : (value.get? "title").bind Json.string? with
  | some title => exact ⟨Name.identifier title, by simp [bind, Except.bind, htitle]; rfl⟩
  | none =>
    have hlast : Pointer.lastSegment? r = .ok segments.getLast? := by
      rw [Pointer.lastSegment?, hsegments]; rfl
    exact ⟨_, by simp only [bind, Except.bind, htitle, hlast]; rfl⟩

/-- The references that are needed if `N` answers for references. -/
theorem needing_eq (hN : ∀ r ∈ N, ∃ target,
      c.document.resolveAs r "schema" Schema.decode = .ok target) :
    c.needing d N = needs c d ∅ N := by
  ext r
  constructor
  · rintro ⟨target, depth, code, s, htarget, h⟩
    obtain ⟨hc, hchanged⟩ := convertAnswering_eq_ok h
    exact ⟨Set.notMem_empty r, target, htarget, hc, hchanged.1 rfl⟩
  · rintro ⟨_, target, htarget, hc, hchanged⟩
    obtain ⟨n, hn⟩ := hc.convertAnswering_ok fun r hr => (hN r hr).elim fun _ => refName_of_resolveAs
    obtain ⟨converted, s, h⟩ := hn n le_rfl "value" {}
    obtain ⟨code, rfl⟩ := Option.isSome_iff_exists.1 ((convertAnswering_eq_ok h).2.2 hchanged)
    exact ⟨target, n, code, s, htarget, h⟩

theorem isLeast_needed : IsLeast {N | c.needing d N = N} (needed c d ∅) := by
  constructor
  · have hN : ∀ r ∈ needed c d ∅, ∃ target,
        c.document.resolveAs r "schema" Schema.decode = .ok target := by
      intro r hr
      obtain ⟨_, target, htarget, _⟩ := mem_needed.1 hr
      exact ⟨target, htarget⟩
    exact (needing_eq hN).trans (needs c d ∅).map_lfp
  · intro N hfixed
    have hN : ∀ r ∈ N, ∃ target, c.document.resolveAs r "schema" Schema.decode = .ok target := by
      intro r hr
      rw [← show c.needing d N = N from hfixed] at hr
      obtain ⟨target, _, _, _, htarget, _⟩ := hr
      exact ⟨target, htarget⟩
    exact (needs c d ∅).lfp_le_fixed ((needing_eq hN).symm.trans hfixed)

end

/-! ## Histories -/

section

variable {c : Compiler} {d : Direction} {r : String} {b : Bool} {s s' : Progress}

theorem Compiler.needsConversion_answers (h : c.needsConversion d r s = .ok (b, s')) :
    Answers c d [.ref r] s.probes [b] s'.probes :=
  hasConversion_answers (fun _ _ _ _ _ h => convertTo_answers h) h

/-- Between two conversions no question is open, and all that is settled is right. -/
theorem Compiler.History.sound {p : Probes} (h : c.History p) : p.Sound c ∧ p.opened = [] := by
  induction h with
  | start => exact ⟨fun _ _ _ => nofun, rfl⟩
  | needsConversion _ h ih =>
    have answers := needsConversion_answers h
    exact ⟨(answers.right ih.1).1, answers.opened_eq.trans ih.2⟩
  | convert _ h ih =>
    have answers := convertTo_answers h
    exact ⟨(answers.right ih.1).1, answers.opened_eq.trans ih.2⟩

theorem needsConversion_isLeast (history : c.History s.probes)
    (h : c.needsConversion d r s = .ok (b, s')) :
    ∃ N, IsLeast {N | c.needing d N = N} N ∧ (b = true ↔ r ∈ N) := by
  refine ⟨needed c d ∅, isLeast_needed, ?_⟩
  exact (Compiler.needsConversion_answers h).ref_iff history.sound.1 history.sound.2

end

/-- Two schemas that lead to each other, the second of them with dates beside. -/
def mutualSchemas : Compiler where
  document :=
    { raw := .object [
        ("A", .object [("type", .string "array"), ("items", .object [("$ref", .string "#/B")])]),
        ("B", .object [("properties", .object [("a", .object [("$ref", .string "#/A")]),
          ("at", .object [("type", .string "string"), ("format", .string "date-time")])])])]
      spec := default }
  formats := Registry.builtin "./runtime"

/-- The question about the second schema, after the one about the first. -/
theorem needsConversion_isLeast_mutualSchemas :
    ∃ N, IsLeast {N | mutualSchemas.needing .parse N = N} N ∧ (true = true ↔ "#/B" ∈ N) := by
  let probes : Probes := {
    floor := some 0
    settled := [(("#/A", .parse), true), (("#/B", .parse), true)] }
  have first : mutualSchemas.needsConversion .parse "#/A" {} = .ok (true, { probes }) := by
    with_unfolding_all rfl
  have second : mutualSchemas.needsConversion .parse "#/B" { probes } = .ok (true, { probes }) := by
    with_unfolding_all rfl
  exact needsConversion_isLeast (.needsConversion .start first) second

end OpenApi

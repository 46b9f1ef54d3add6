import Mathlib.Data.Fintype.Card
import Mathlib.Logic.Relation
import OpenApi.Proofs.Conversion.Inner
import OpenApi.Proofs.Conversion.Need

/-!
Where conversions end. A reference is not followed again while it is being followed, and there are
finitely many of them; but the parts of an `allOf` and the branches for arrays of a union are taken
in without a question, so that schemas which lead to themselves in this way alone are followed
without end. `Endless` says so in terms of the outlines of the schemas, and nothing else makes a
conversion endless (`exists_depth_iff`).
-/

namespace OpenApi

/-! ## References behind which no conversion fails -/

section

variable (c : Compiler) (d : Direction)

/-- What it takes that no conversion behind a reference fails, where the references in `A` are not
followed. -/
def safeStep (A : Set String) : Set String →o Set String where
  toFun V := {r | ∃ target, c.document.resolveAs r "schema" Schema.decode = .ok target ∧
    (r ∈ A ∨ Convertible c d V target)}
  monotone' _ _ hV _ h := by
    obtain ⟨target, htarget, h⟩ := h
    exact ⟨target, htarget, h.imp_right (Convertible.mono hV)⟩

/-- The references behind which no conversion fails, where those in `A` are not followed. -/
def safe (A : Set String) : Set String := (safeStep c d A).gfp

variable {c d} {A A' : Set String} {r : String}

theorem mem_safe : r ∈ safe c d A ↔ ∃ target,
    c.document.resolveAs r "schema" Schema.decode = .ok target ∧
      (r ∈ A ∨ Convertible c d (safe c d A) target) := by
  show r ∈ (safeStep c d A).gfp ↔ _
  rw [← (safeStep c d A).map_gfp]
  rfl

theorem safe_mono (h : A ⊆ A') : safe c d A ⊆ safe c d A' :=
  OrderHom.gfp.mono fun _ _ hr => hr.imp fun _ ht => ⟨ht.1, ht.2.imp_left fun hA => h hA⟩

/-- No conversion of the schema behind a safe reference fails, where the reference is not followed
again. -/
theorem safe_target {target : Schema} (hr : r ∈ safe c d A) (hnew : r ∉ A)
    (htarget : c.document.resolveAs r "schema" Schema.decode = .ok target) :
    Convertible c d (safe c d (insert r A)) target := by
  obtain ⟨target', htarget', hr⟩ := mem_safe.1 hr
  cases htarget.symm.trans htarget'
  exact (hr.resolve_left hnew).mono (safe_mono (Set.subset_insert r A))

/-- What has been found behind a reference is found without following it, too. -/
theorem safe_insert_subset {target : Schema}
    (htarget : c.document.resolveAs r "schema" Schema.decode = .ok target)
    (h : Convertible c d (safe c d (insert r A)) target) :
    safe c d (insert r A) ⊆ safe c d A := by
  refine OrderHom.le_gfp _ fun q hq => ?_
  obtain ⟨target', htarget', (rfl | hA) | hq⟩ := mem_safe.1 hq
  · rw [htarget] at htarget'
    cases htarget'
    exact ⟨target, htarget, .inr h⟩
  · exact ⟨target', htarget', .inl hA⟩
  · exact ⟨target', htarget', .inr hq⟩

end

/-! ## Endless schemas -/

/-- The conversion of the first schema goes on to the second, which its outline holds behind schemas
whose conversion does not fail. No reference is followed between the two; those in `A` have been. -/
def Descends (c : Compiler) (d : Direction) (A : Set String) (x y : Schema) : Prop :=
  ∃ k o before after, x = .inline k ∧ c.Outlined k o ∧ o.inner = before ++ y :: after ∧
    ∀ z ∈ before, Convertible c d (safe c d A) z

/-- The conversion of the schema comes to a schema that leads back to itself without a reference in
between, when the references in `A` are not followed. -/
inductive Endless (c : Compiler) (d : Direction) : Set String → Schema → Prop
  | cycle {A : Set String} {x : Schema} (h : Relation.TransGen (Descends c d A) x x) :
      Endless c d A x
  | inner {A : Set String} {x y : Schema} (h : Descends c d A x y) (more : Endless c d A y) :
      Endless c d A x
  | ref {A : Set String} {r : String} {target : Schema} (new : r ∉ A)
      (target_eq : c.document.resolveAs r "schema" Schema.decode = .ok target)
      (more : Endless c d (insert r A) target) : Endless c d A (.ref r)

variable {c : Compiler} {d : Direction} {A : Set String}

theorem Convertible.of_descends {V : Set String} {x y : Schema} (hx : Convertible c d V x)
    (h : Descends c d A x y) : Convertible c d V y := by
  obtain ⟨k, o, before, after, rfl, ho, hinner, _⟩ := h
  cases hx with
  | inline outlined _ inside =>
    refine inside y ?_
    rw [outlined.unique ho, hinner]
    simp

theorem Convertible.not_cycle {V : Set String} {x : Schema} (hx : Convertible c d V x) :
    ¬Relation.TransGen (Descends c d A) x x := by
  induction hx with
  | ref h =>
    intro hcycle
    obtain ⟨_, ⟨_, _, _, _, heq, _⟩, _⟩ := Relation.TransGen.head'_iff.1 hcycle
    cases heq
  | bool accepts =>
    intro hcycle
    obtain ⟨_, ⟨_, _, _, _, heq, _⟩, _⟩ := Relation.TransGen.head'_iff.1 hcycle
    cases heq
  | @inline k o outlined _ _ ih =>
    intro hcycle
    obtain ⟨y, hy, hback⟩ := Relation.TransGen.head'_iff.1 hcycle
    refine ih y ?_ (.tail' hback hy)
    obtain ⟨_, o', before, after, heq, ho, hinner, _⟩ := hy
    cases heq
    rw [outlined.unique ho, hinner]
    simp

/-- A schema whose conversion does not fail is not endless. -/
theorem Endless.not_convertible {x : Schema} (h : Endless c d A x) :
    ¬Convertible c d (safe c d A) x := by
  induction h with
  | cycle h => exact fun hx => hx.not_cycle h
  | inner h _ ih => exact fun hx => ih (hx.of_descends h)
  | @ref A r target new htarget _ ih =>
    intro hx
    cases hx with
    | ref hr =>
    obtain ⟨target', htarget', hA | htarget''⟩ := mem_safe.1 hr
    · exact new hA
    · rw [htarget] at htarget'
      cases htarget'
      exact ih (htarget''.mono (safe_mono (Set.subset_insert r A)))

/-! ## What the questions know -/

/-- The references that are being followed lead to schemas, and no conversion fails behind those
that are settled. -/
structure Probes.Covered (c : Compiler) (d : Direction) (p : Probes) : Prop where
  opened : ∀ r ∈ p.opened, ∃ target, c.document.resolveAs r "schema" Schema.decode = .ok target
  settled : ∀ r b, p.settled.lookup (r, d) = some b → r ∈ safe c d {r | r ∈ p.opened}

theorem Probes.Covered.opening {p : Probes} {r : String} {target : Schema} (hp : p.Covered c d)
    (htarget : c.document.resolveAs r "schema" Schema.decode = .ok target) :
    (p.opening r).Covered c d where
  opened := by
    intro q hq
    rcases List.mem_append.1 hq with hq | hq
    · exact hp.opened q hq
    · rw [List.mem_singleton.1 hq]
      exact ⟨target, htarget⟩
  settled := by
    intro q b known
    exact safe_mono (fun q hq => List.mem_append_left [r] hq) (hp.settled q b known)

theorem setOf_opening (p : Probes) (r : String) :
    {q | q ∈ (p.opening r).opened} = insert r {q | q ∈ p.opened} := by
  ext q
  simp [Probes.opening, or_comm]

/-- A conversion that does not fail leads to no reference behind which one would fail. -/
theorem Answers.covered {xs : List Schema} {p p' : Probes} {bs : List Bool}
    (h : Answers c d xs p bs p') (hp : p.Covered c d) :
    p'.Covered c d ∧ ∀ x ∈ xs, Convertible c d (safe c d {r | r ∈ p.opened}) x := by
  induction h with
  | nil => exact ⟨hp, by simp⟩
  | bool _ ih =>
    obtain ⟨hp', hrest⟩ := ih hp
    exact ⟨hp', List.forall_mem_cons.2 ⟨.bool _, hrest⟩⟩
  | settled known _ ih =>
    obtain ⟨hp', hrest⟩ := ih hp
    exact ⟨hp', List.forall_mem_cons.2 ⟨.ref (hp.settled _ _ known), hrest⟩⟩
  | @opened r _ p _ place _ found more ih =>
    obtain ⟨hp', hrest⟩ := ih ⟨hp.opened, hp.settled⟩
    have hr : r ∈ p.opened := List.mem_of_mem_drop (mem_drop_of_idxOf? found)
    obtain ⟨target, htarget⟩ := hp.opened r hr
    exact ⟨hp', List.forall_mem_cons.2 ⟨.ref (mem_safe.2 ⟨target, htarget, .inl hr⟩), hrest⟩⟩
  | @probed r target _ p q p' b _ new htarget inside more ih ih' =>
    obtain ⟨hq, htargets⟩ := ih (hp.opening htarget)
    -- Nothing fails behind `r`, so what is safe while `r` is being followed is safe without it.
    have hsub : safe c d {q | q ∈ (p.opening r).opened} ⊆ safe c d {q | q ∈ p.opened} := by
      rw [setOf_opening]
      refine safe_insert_subset htarget ?_
      rw [← setOf_opening]
      exact htargets target (by simp)
    have hr : r ∈ safe c d {q | q ∈ p.opened} :=
      hsub (mem_safe.2 ⟨target, htarget, .inl (by simp [Probes.opening])⟩)
    have hclosing : (p.closing d r b q).Covered c d := by
      refine ⟨hp.opened, fun q' b' known => ?_⟩
      rcases Probes.lookup_closing known with ⟨_, heq, _⟩ | known
      · cases heq
        exact hr
      · have := hq.settled q' b' known
        rw [inside.opened_eq] at this
        exact hsub this
    obtain ⟨hp', hrest⟩ := ih' hclosing
    exact ⟨hp', List.forall_mem_cons.2 ⟨.ref hr, hrest⟩⟩
  | @inline k o _ p q p' b inner _ outlined testable inside answer more ih ih' =>
    obtain ⟨hq, hinside⟩ := ih hp
    obtain ⟨hp', hrest⟩ := ih' hq
    rw [inside.opened_eq] at hrest
    exact ⟨hp', List.forall_mem_cons.2 ⟨.inline outlined testable hinside, hrest⟩⟩

/-- The answers for the other direction stay as they are. -/
theorem Answers.lookup_of_ne {xs : List Schema} {p p' : Probes} {bs : List Bool}
    (h : Answers c d xs p bs p') {d' : Direction} (hd : d' ≠ d) (r : String) :
    p'.settled.lookup (r, d') = p.settled.lookup (r, d') := by
  induction h with
  | nil => rfl
  | bool _ ih => exact ih
  | settled _ _ ih => exact ih
  | opened _ _ ih => exact ih
  | probed _ _ _ _ ih ih' =>
    rw [ih', Probes.lookup_closing_of_ne (by simp [hd]), ih]
    rfl
  | inline _ _ _ _ _ ih ih' => exact ih'.trans ih

theorem Compiler.History.covered {p : Probes} (h : c.History p) (d : Direction) :
    p.Covered c d := by
  have step : ∀ {d' : Direction} {xs : List Schema} {p p' : Probes} {bs : List Bool},
      c.History p → Answers c d' xs p bs p' → p.Covered c d → p'.Covered c d := by
    intro d' xs p p' bs history answers hp
    by_cases hd : d = d'
    · cases hd
      exact (answers.covered hp).1
    · refine ⟨?_, fun r b known => ?_⟩
      · rw [answers.opened_eq]
        exact hp.opened
      · rw [answers.opened_eq]
        exact hp.settled r b (answers.lookup_of_ne hd r ▸ known)
  induction h with
  | start => exact ⟨by simp, fun _ _ known => by cases known⟩
  | needsConversion before h ih => exact step before (Compiler.needsConversion_answers h) ih
  | convert before h ih => exact step before (Compiler.convertTo_answers h) ih

/-! ## Endless schemas are followed without end -/

/-- A state in which the references in `A` are being followed. -/
structure Following (c : Compiler) (d : Direction) (A : Set String) (s : Progress) : Prop where
  opened : {r | r ∈ s.probes.opened} = A
  covered : s.probes.Covered c d

namespace Following

variable {s s' : Progress} {r : String} {target : Schema} {depth : Nat} {value : Code}

theorem context (h : Following c d A s) (ctx : Context) :
    Following c d A { s with context := ctx } := ⟨h.opened, h.covered⟩

theorem answers (h : Following c d A s) {xs : List Schema} {bs : List Bool}
    (h' : Answers c d xs s.probes bs s'.probes) :
    Following c d A s' ∧ ∀ x ∈ xs, Convertible c d (safe c d A) x := by
  obtain ⟨hcovered, hxs⟩ := h'.covered h.covered
  rw [h.opened] at hxs
  exact ⟨⟨by rw [h'.opened_eq, h.opened], hcovered⟩, hxs⟩

theorem opening (h : Following c d A s)
    (htarget : c.document.resolveAs r "schema" Schema.decode = .ok target) :
    Following c d (insert r A) { s with probes := s.probes.opening r } :=
  ⟨by rw [setOf_opening, h.opened], h.covered.opening htarget⟩

theorem mem_opened (h : Following c d A s) : r ∈ s.probes.opened ↔ r ∈ A := by
  rw [← h.opened]
  rfl

/-- A conversion that does not fail at any depth fails for lack of depth only. -/
theorem tooDeep_or_ok {x : Schema} (h : Following c d A s)
    (hx : Convertible c d (safe c d A) x) :
    c.convertTo d depth x value s = .error .tooDeep ∨
      ∃ r s', c.convertTo d depth x value s = .ok (r, s') := by
  induction depth generalizing x A s value with
  | zero => exact .inl rfl
  | succ depth ih =>
    cases hx with
    | bool accepts => exact .inr ⟨none, s, rfl⟩
    | @ref r hr =>
      obtain ⟨target, htarget, _⟩ := mem_safe.1 hr
      have hneeded : c.hasConversion d (c.convertTo d depth) r s = .error .tooDeep ∨
          ∃ b s', c.hasConversion d (c.convertTo d depth) r s = .ok (b, s') := by
        rcases c.hasConversion_cases d (c.convertTo d depth) r s with
          ⟨b, _, heq⟩ | ⟨_, _, heq⟩ | ⟨cause, hcause, _⟩ | ⟨target', new, htarget', heq⟩
        · exact .inr ⟨b, s, heq⟩
        · exact .inr ⟨false, _, heq⟩
        · rw [htarget] at hcause
          cases hcause
        · cases htarget.symm.trans htarget'
          -- The target is looked into only while its reference is not being followed yet.
          have htargets := safe_target hr (mt h.mem_opened.2 new) htarget
          rw [heq]
          rcases ih (h.opening htarget) htargets with he | ⟨converted, s', hok⟩
          · exact .inl (by rw [he]; rfl)
          · exact .inr ⟨_, _, by rw [hok]; rfl⟩
      rcases hneeded with he | ⟨b, s', hok⟩
      · exact .inl (Compile.bind_apply_of_error he)
      · refine .inr ?_
        cases b with
        | false => exact ⟨none, s', Compile.bind_apply_of_ok hok⟩
        | true =>
          obtain ⟨name, hname⟩ := refName_of_resolveAs htarget
          obtain ⟨ctx, happly⟩ := Compiler.functionName_apply (c := c) (d := d) hname s'
          exact ⟨_, _, (Compile.bind_apply_of_ok hok).trans (Compile.bind_apply_of_ok happly)⟩
    | @inline k o outlined testable inside =>
      have follows := c.convertKeywords_follows d depth (c.convertTo d depth) k value
      rcases outlined.outline_eq depth with ho | ho
      · rw [ho] at follows
        exact .inl (Compile.bind_apply_of_error (follows s))
      · rw [ho] at follows
        rcases follows s with ⟨e, hw, he⟩ | ⟨_, _, _, ⟨_, r, ctx, hr, _⟩ | ⟨hno, _⟩⟩
        · obtain ⟨before, y, after, _, s', value', ctx, hinner, hbefore, hy⟩ := hw.split_error
          -- The answers before the inner schema that fails leave the same references to follow.
          have hs' := (h.answers (Compiler.walk_answers
            (fun _ _ _ _ _ => Compiler.convertTo_answers) hbefore)).1
          have hymem : y ∈ o.inner := by simp [hinner]
          have hy' : c.convertTo d depth y value' { s' with context := ctx } = .error .tooDeep ∨
              ∃ r s'', c.convertTo d depth y value' { s' with context := ctx } = .ok (r, s'') :=
            ih (hs'.context ctx) (inside y hymem)
          rw [hy] at hy'
          rcases hy' with he' | ⟨_, _, hok⟩
          · cases he'
            exact .inl (Compile.bind_apply_of_error he)
          · cases hok
        · exact .inr ⟨_, _, Compile.bind_apply_of_ok hr⟩
        · exact absurd testable hno

end Following

/-- What a schema descends to keeps it from having an end. -/
theorem Descends.tooDeep {x y : Schema} {depth : Nat} (h : Descends c d A x y)
    (hy : ∀ value s, Following c d A s → c.convertTo d depth y value s = .error .tooDeep)
    (value : Code) {s : Progress} (hs : Following c d A s) :
    c.convertTo d (depth + 1) x value s = .error .tooDeep := by
  obtain ⟨k, o, before, after, rfl, outlined, hinner, hsafe⟩ := h
  have hbefore : ∀ z ∈ before, ∀ value s, Following c d A s →
      c.convertTo d depth z value s = .error .tooDeep ∨
        ∃ r s', c.convertTo d depth z value s = .ok (r, s') ∧ Following c d A s' := by
    intro z hz value s hs
    refine (hs.tooDeep_or_ok (hsafe z hz)).imp_right ?_
    rintro ⟨r, s', hok⟩
    exact ⟨r, s', hok, (hs.answers (Compiler.convertTo_answers hok)).1⟩
  have hwalk : ∀ w, Walk (c.convertTo d depth) o.inner s w → w = .error .tooDeep := by
    intro w hw
    rw [hinner] at hw
    exact hw.error_of_before (fun _ ctx hs => hs.context ctx) hbefore hy hs
  have follows := c.convertKeywords_follows d depth (c.convertTo d depth) k value
  rcases outlined.outline_eq depth with ho | ho
  · rw [ho] at follows
    exact Compile.bind_apply_of_error (follows s)
  · rw [ho] at follows
    rcases follows s with ⟨e, hw, he⟩ | ⟨answers, s', hw, _⟩
    · cases hwalk _ hw
      exact Compile.bind_apply_of_error he
    · cases hwalk _ hw

/-- The conversion of an endless schema comes to no end at any depth. -/
theorem Endless.tooDeep {x : Schema} (h : Endless c d A x) (depth : Nat) (value : Code)
    {s : Progress} (hs : Following c d A s) :
    c.convertTo d depth x value s = .error .tooDeep := by
  induction h generalizing depth value s with
  | @cycle A x h =>
    induction depth generalizing x value s with
    | zero => rfl
    | succ depth ih =>
      obtain ⟨y, hy, hback⟩ := Relation.TransGen.head'_iff.1 h
      exact hy.tooDeep (fun value s hs => ih (.tail' hback hy) value hs) value hs
  | @inner A x y h _ ih =>
    cases depth with
    | zero => rfl
    | succ depth => exact h.tooDeep (fun value s hs => ih depth value hs) value hs
  | @ref A r target new htarget more ih =>
    cases depth with
    | zero => rfl
    | succ depth =>
      have endless : Endless c d A (.ref r) := .ref new htarget more
      have unknown : s.probes.settled.lookup (r, d) = none := by
        cases known : s.probes.settled.lookup (r, d) with
        | none => rfl
        | some b =>
          have hr := hs.covered.settled r b known
          rw [hs.opened] at hr
          exact absurd (.ref hr) endless.not_convertible
      refine Compile.bind_apply_of_error ?_
      show c.hasConversion d (c.convertTo d depth) r s = .error .tooDeep
      rw [Compiler.hasConversion_target unknown (mt hs.mem_opened.1 new) htarget,
        ih depth "value" (hs.opening htarget)]
      rfl

/-! ## All other conversions end -/

theorem require_ne_tooDeep (formats : Registry) (name : String) (k : Keywords Schema) :
    formats.require name k ≠ .error .tooDeep := by
  unfold Registry.require
  split <;> exact nofun

theorem addString_ne_tooDeep (formats : Registry) (shapes : UnionShapes) (k : Keywords Schema) :
    shapes.addString formats k ≠ .error .tooDeep := by
  unfold UnionShapes.addString
  split
  · exact nofun
  · split
    · exact nofun
    · exact bind_ne_tooDeep (require_ne_tooDeep formats _ k) fun _ => nofun

theorem add_ne_tooDeep (doc : Document) (formats : Registry) (shapes : UnionShapes)
    (branch : Schema) : UnionShapes.add doc formats shapes branch ≠ .error .tooDeep := by
  refine bind_ne_tooDeep (doc.deref_ne_tooDeep .schema branch) fun target => ?_
  rcases target with (_ | _) | k
  · exact nofun
  · exact nofun
  · show shapes.addKeywords formats branch k ≠ _
    unfold UnionShapes.addKeywords
    split
    · exact nofun
    dsimp only
    split
    case h_7 => exact addString_ne_tooDeep formats _ k
    case h_9 =>
      split
      · exact nofun
      split
      · exact nofun
      split
      · exact addString_ne_tooDeep formats _ k
      · exact nofun
    all_goals exact nofun

theorem unionOutline_ne_tooDeep (branches : List Schema) :
    c.unionOutline branches ≠ .error .tooDeep := by
  refine bind_ne_tooDeep (foldlM_ne_tooDeep (add_ne_tooDeep c.document c.formats)) fun shapes => ?_
  split <;> exact nofun

theorem discriminatedOutline_ne_tooDeep (branches : List Schema) (discriminator : Discriminator) :
    Compiler.discriminatedOutline branches discriminator ≠ .error .tooDeep := by
  refine bind_ne_tooDeep (foldlM_ne_tooDeep fun cases branch => ?_) fun _ => nofun
  cases branch with
  | ref reference =>
    dsimp only
    split
    · exact nofun
    · refine bind_ne_tooDeep ?_ fun _ => nofun
      cases Pointer.lastSegment? reference <;> exact nofun
  | bool accepts => exact nofun
  | inline k => exact nofun

/-- Only merging the parts of an `allOf` takes depth. -/
theorem outline_ne_tooDeep {depth : Nat} {k : Keywords Schema}
    (h : k.allOf ≠ [] → c.document.mergeAllOf depth k ≠ .error .tooDeep) :
    c.outline depth k ≠ .error .tooDeep := by
  have string : c.stringOutline k ≠ .error .tooDeep := by
    unfold Compiler.stringOutline
    split
    · exact nofun
    · split
      · exact nofun
      · exact bind_ne_tooDeep (require_ne_tooDeep c.formats _ k) fun _ => nofun
  unfold Compiler.outline
  split
  case isTrue hall => exact bind_ne_tooDeep (h (by simpa using hall)) fun _ => nofun
  split
  · cases k.discriminator with
    | none => exact unionOutline_ne_tooDeep k.unionBranches
    | some discriminator => exact discriminatedOutline_ne_tooDeep k.unionBranches discriminator
  · rcases k.type with _ | type
    · dsimp only
      split
      · exact nofun
      split
      · exact nofun
      split
      · exact string
      · exact nofun
    · cases type
      case string => exact string
      all_goals exact nofun

/-- Where the conversion of a reference is too deep, it has not been followed before, and that of the
schema behind it is too deep. -/
theorem Following.target_of_tooDeep {s : Progress} {depth : Nat} {r : String} {value : Code}
    (hs : Following c d A s) (h : c.convertTo d (depth + 1) (.ref r) value s = .error .tooDeep) :
    ∃ target s', r ∉ A ∧ c.document.resolveAs r "schema" Schema.decode = .ok target ∧
      Following c d (insert r A) s' ∧ c.convertTo d depth target "value" s' = .error .tooDeep := by
  obtain ⟨hnew, target, htarget, htooDeep⟩ :=
    Compiler.hasConversion_tooDeep (Compiler.convertRef_tooDeep h)
  exact ⟨target, _, mt hs.mem_opened.2 hnew, htarget, hs.opening htarget, htooDeep⟩

/-- Where the conversion of a schema object is too deep, and not because of its outline, that of a
schema it descends to is. -/
theorem Following.descends_of_tooDeep {s : Progress} {depth : Nat} {k : Keywords Schema}
    {value : Code} (hs : Following c d A s) (hk : c.outline depth k ≠ .error .tooDeep)
    (h : c.convertTo d (depth + 1) (.inline k) value s = .error .tooDeep) :
    ∃ y value' s', Descends c d A (.inline k) y ∧ Following c d A s' ∧
      c.convertTo d depth y value' s' = .error .tooDeep := by
  replace h : c.convertKeywords d depth (c.convertTo d depth) k value s = .error .tooDeep := by
    change (c.convertKeywords d depth (c.convertTo d depth) k value >>= _) s = _ at h
    rw [Compile.bind_apply] at h
    cases hk : c.convertKeywords d depth (c.convertTo d depth) k value s with
    | error e => rw [hk] at h; cases h; rfl
    | ok result => rw [hk] at h; cases h
  have follows := c.convertKeywords_follows d depth (c.convertTo d depth) k value
  cases ho : c.outline depth k with
  | error e =>
    rw [ho] at follows
    rw [follows s] at h
    cases h
    exact absurd ho hk
  | ok o =>
    rw [ho] at follows
    rcases follows s with ⟨e, hw, he⟩ | ⟨_, _, _, ⟨_, _, _, hr, _⟩ | ⟨_, _, he⟩⟩
    · rw [h] at he
      cases he
      obtain ⟨before, y, after, _, s', value', ctx, hinner, hbefore, hy⟩ := hw.split_error
      obtain ⟨hs', hsafe⟩ := hs.answers (Compiler.walk_answers
        (fun _ _ _ _ _ => Compiler.convertTo_answers) hbefore)
      exact ⟨y, value', _, ⟨k, o, before, after, rfl, ⟨depth, ho⟩, hinner, hsafe⟩, hs'.context ctx,
        hy⟩
    · rw [h] at hr; cases hr
    · rw [h] at he; cases he

/-- A finite set of schemas that conversions do not leave, with a depth that is enough for the
outlines of all of them. -/
structure Bounded (c : Compiler) (schemas : Finset Schema) (refs : Finset String) (outlines : Nat) :
    Prop where
  inner : ∀ k : Keywords Schema, .inline k ∈ schemas → ∀ o, c.Outlined k o →
    ∀ x ∈ o.inner, x ∈ schemas
  target : ∀ r, .ref r ∈ schemas → r ∈ refs ∧ ∀ target,
    c.document.resolveAs r "schema" Schema.decode = .ok target → target ∈ schemas
  outline : ∀ k : Keywords Schema, .inline k ∈ schemas → ∀ depth ≥ outlines,
    c.outline depth k ≠ .error .tooDeep

/-- There is one member less that has not been taken once another one is. -/
theorem card_sdiff_insert {α : Type} [DecidableEq α] {members taken : Finset α} {a : α}
    (ha : a ∈ members) (hnew : a ∉ taken) :
    (members \ insert a taken).card + 1 = (members \ taken).card := by
  rw [Finset.sdiff_insert]
  exact Finset.card_erase_add_one (Finset.mem_sdiff.2 ⟨ha, hnew⟩)

/-- What leads to a schema, and the schema itself, leads to all that it descends to. -/
theorem Descends.back [DecidableEq Schema] {x y : Schema} {visited : Finset Schema}
    (h : Descends c d A x y) (hback : ∀ v ∈ visited, Relation.TransGen (Descends c d A) v x) :
    ∀ v ∈ insert x visited, Relation.TransGen (Descends c d A) v y := by
  intro v hv
  rcases Finset.mem_insert.1 hv with rfl | hv
  · exact .single h
  · exact (hback v hv).tail h

open Classical in
/-- What is followed deeper than there are schemas between two references, as often as there are
references, comes by a schema twice between two references. The schemas since the last reference are
`visited`. -/
theorem endless_of_tooDeep {schemas : Finset Schema} {refs : Finset String} {outlines : Nat}
    (hbounded : Bounded c schemas refs outlines) {depth : Nat} {opened : Finset String}
    {visited : Finset Schema} {x : Schema} {value : Code} {s : Progress} (hx : x ∈ schemas)
    (hvisited : visited ⊆ schemas)
    (hback : ∀ v ∈ visited, Relation.TransGen (Descends c d opened) v x)
    (hs : Following c d opened s)
    (hdepth : outlines + 1 + (refs \ opened).card * (schemas.card + 1) +
      (schemas \ visited).card ≤ depth)
    (h : c.convertTo d depth x value s = .error .tooDeep) : Endless c d opened x := by
  induction depth generalizing opened visited x value s with
  | zero => omega
  | succ depth ih =>
    cases x with
    | bool accepts => cases h
    | ref r =>
      obtain ⟨target, s', hnew, htarget, hs', htooDeep⟩ := hs.target_of_tooDeep h
      obtain ⟨hr, htargets⟩ := hbounded.target r hx
      rw [← Finset.coe_insert] at hs'
      have hcard := card_sdiff_insert hr hnew
      -- There is a reference less to open, and all of the schemas are to be visited again.
      have hmore : Endless c d (insert r opened : Finset String) target := by
        refine ih (htargets target htarget) (Finset.empty_subset schemas) (by simp) hs' ?_ htooDeep
        rw [← hcard, Nat.add_mul] at hdepth
        rw [Finset.sdiff_empty]
        omega
      rw [Finset.coe_insert] at hmore
      exact .ref hnew htarget hmore
    | inline k =>
      -- A schema that has been visited closes a cycle; any other leaves fewer to visit.
      by_cases hcycle : Schema.inline k ∈ visited
      · exact .cycle (hback _ hcycle)
      obtain ⟨y, value', s', hdescends, hs', hy⟩ :=
        hs.descends_of_tooDeep (hbounded.outline k hx depth (by omega)) h
      have hymem : y ∈ schemas := by
        obtain ⟨_, o, before, after, heq, ho, hinner, _⟩ := hdescends
        cases heq
        exact hbounded.inner k hx o ho y (by simp [hinner])
      have hcard := card_sdiff_insert hx hcycle
      exact .inner hdescends
        (ih hymem (Finset.insert_subset hx hvisited) (hdescends.back hback) hs' (by omega) hy)

/-- For every schema of a document there is such a set, whatever the registry. -/
theorem exists_bounded (doc : Document) (schema : Schema) :
    ∃ schemas refs outlines, schema ∈ schemas ∧
      ∀ c : Compiler, c.document = doc → Bounded c schemas refs outlines := by
  have hB := doc.near_closed schema
  have hfinite := doc.near_finite schema
  obtain ⟨count, hcount⟩ : ∃ count, ∀ k : Keywords Schema, .inline k ∈ doc.near schema →
      k.unionBranches.length ≤ count := by
    let branchCount (x : Schema) : Nat :=
      match x with
      | .inline k => k.unionBranches.length
      | _ => 0
    obtain ⟨count, hcount⟩ := (hfinite.image branchCount).bddAbove
    exact ⟨count, fun k hk => hcount (Set.mem_image_of_mem branchCount hk)⟩
  obtain ⟨n, hn⟩ := doc.mergeAllOf_ends hB hfinite
  have hwith := withUnions_finite hfinite count
  refine ⟨hwith.toFinset, (Document.finite_refs hfinite).toFinset, n, ?_, ?_⟩
  · rw [Set.Finite.mem_toFinset]
    exact .inl (.inr (.inl .refl))
  rintro c rfl
  refine ⟨?_, ?_, ?_⟩
  · rintro k hk o ⟨depth, ho⟩ x hx
    rw [Set.Finite.mem_toFinset] at hk ⊢
    exact Compiler.outline_inner hB hcount hk ho x hx
  · intro r hr
    rw [Set.Finite.mem_toFinset] at hr
    rcases hr with hr | ⟨_, heq, _⟩
    · refine ⟨(Set.Finite.mem_toFinset _).2 hr, fun target htarget => ?_⟩
      exact (Set.Finite.mem_toFinset _).2 (.inl (hB.target hr htarget))
    · cases heq
  · intro k hk depth hdepth
    rw [Set.Finite.mem_toFinset] at hk
    refine outline_ne_tooDeep fun hall => ?_
    rcases hk with hk | ⟨_, heq, _⟩
    · exact hn depth hdepth k hk
    · cases heq
      exact absurd rfl hall

theorem following_of_history {s : Progress} (h : c.History s.probes) : Following c d ∅ s :=
  ⟨by simp [h.sound.2], h.covered d⟩

/-- How deep the conversion of a schema goes depends on the schema and the document alone, unless the
schema is endless; then the conversion has no end at any depth. -/
theorem convertTo_ends_unless_endless (doc : Document) (schema : Schema) :
    ∃ n, ∀ c : Compiler, c.document = doc → ∀ d,
      (¬Endless c d ∅ schema → ∀ value s, c.History s.probes → ∀ depth ≥ n,
        c.convertTo d depth schema value s ≠ .error .tooDeep) ∧
      (Endless c d ∅ schema → ∀ value s, c.History s.probes → ∀ depth,
        c.convertTo d depth schema value s = .error .tooDeep) := by
  classical
  obtain ⟨schemas, refs, outlines, hschema, hbounded⟩ := exists_bounded doc schema
  refine ⟨outlines + 1 + refs.card * (schemas.card + 1) + schemas.card, fun c hc d => ⟨?_, ?_⟩⟩
  · intro hends value s history depth hdepth h
    have hempty : ((∅ : Finset String) : Set String) = ∅ := Finset.coe_empty
    have hendless : Endless c d ((∅ : Finset String) : Set String) schema := by
      refine endless_of_tooDeep (hbounded c hc) hschema (Finset.empty_subset schemas) (by simp) ?_ ?_ h
      · rw [hempty]
        exact following_of_history history
      · rw [Finset.sdiff_empty, Finset.sdiff_empty]
        exact hdepth
    rw [hempty] at hendless
    exact hends hendless
  · intro hendless value s history depth
    exact hendless.tooDeep depth value (following_of_history history)

/-- Lists of comments, each of which is a list of comments. -/
def comments : Compiler where
  document :=
    { raw := .object [("components", .object [("schemas", .object [("Comments", .object [
        ("type", .string "array"),
        ("items", .object [("$ref", .string "#/components/schemas/Comments")])])])])]
      spec := default }
  formats := Registry.builtin "./runtime"

/-- The schema leads to itself by a reference only, so that its conversion has an end. -/
theorem convertTo_ends_unless_endless_comments :
    ¬Endless comments .parse ∅ (.ref "#/components/schemas/Comments") ∧
      ∃ n, ∀ depth ≥ n, comments.convertTo .parse depth
        (.ref "#/components/schemas/Comments") "value" {} ≠ .error .tooDeep := by
  have target_eq : comments.document.resolveAs "#/components/schemas/Comments" "schema"
      Schema.decode = .ok (.inline { type := some .array
                                     items := some (.ref "#/components/schemas/Comments") }) := rfl
  have hsafe : {"#/components/schemas/Comments"} ⊆ safe comments .parse ∅ := by
    refine OrderHom.le_gfp _ ?_
    rintro _ rfl
    exact ⟨_, target_eq, .inr (.inline (o := { inner := [.ref "#/components/schemas/Comments"] })
      ⟨0, rfl⟩ nofun (List.forall_mem_singleton.2 (.ref rfl)))⟩
  have hends : ¬Endless comments .parse ∅ (.ref "#/components/schemas/Comments") :=
    fun hendless => hendless.not_convertible (.ref (hsafe rfl))
  obtain ⟨n, hn⟩ :=
    convertTo_ends_unless_endless comments.document (.ref "#/components/schemas/Comments")
  exact ⟨hends, n, (hn comments rfl .parse).1 hends "value" {} .start⟩

/-- Lists of comments, each of which is a list of comments by way of a union. -/
def nestedComments : Compiler where
  document :=
    { raw := .object [("components", .object [("schemas", .object [("Comments", .object [
        ("type", .string "array"),
        ("items", .object [("oneOf", .array [
          .object [("$ref", .string "#/components/schemas/Comments")]])])])])])]
      spec := default }
  formats := Registry.builtin "./runtime"

/-- A branch for arrays is taken in without a question whether the reference to it is being followed,
so that the union leads back to itself. -/
theorem nestedComments_endless (d : Direction) :
    Endless nestedComments d ∅ (.ref "#/components/schemas/Comments") := by
  let union : Keywords Schema := { oneOf := [.ref "#/components/schemas/Comments"] }
  let comments : Keywords Schema := { type := some .array, items := some (.inline union) }
  let A : Set String := insert "#/components/schemas/Comments" ∅
  have target_eq : nestedComments.document.resolveAs "#/components/schemas/Comments" "schema"
      Schema.decode = .ok (.inline comments) := rfl
  have hcomments : Descends nestedComments d A (.inline comments) (.inline union) :=
    ⟨comments, { inner := [.inline union] }, [], [], rfl, ⟨0, rfl⟩, rfl, by simp⟩
  have hunion : Descends nestedComments d A (.inline union) (.inline union) :=
    ⟨union, { inner := [.inline union], isUnion := true }, [], [], rfl, ⟨0, rfl⟩, rfl, by simp⟩
  exact .ref (Set.notMem_empty _) target_eq (.inner hcomments (.cycle (.single hunion)))

/-- So there is no depth at which their conversion has an end. -/
theorem nestedComments_tooDeep : ¬∃ depth, nestedComments.convertTo .parse depth
    (.ref "#/components/schemas/Comments") "value" {} ≠ .error .tooDeep := by
  rintro ⟨depth, hends⟩
  exact hends ((nestedComments_endless .parse).tooDeep depth "value" (following_of_history .start))

end OpenApi

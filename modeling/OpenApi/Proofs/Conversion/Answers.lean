import OpenApi.Proofs.Conversion.Outline

/-!
Conversions that end without a failure, as far as they depend on the questions asked about
references and change them: `Answers` reads off from the outlines of the schemas whether each of them
has anything to convert.
-/

namespace OpenApi

namespace Probes

theorem lookup_closing_of_ne {p q : Probes} {d : Direction} {r : String} {b : Bool}
    {key : String × Direction} (h : key ≠ (r, d)) :
    (p.closing d r b q).settled.lookup key = q.settled.lookup key := by
  unfold closing
  dsimp only
  split
  · rw [List.lookup_cons, beq_false_of_ne h]
  · rfl

/-- An answer that is settled once a question is closed is the one to that question, or has been
settled before. -/
theorem lookup_closing {p q : Probes} {d : Direction} {r : String} {b b' : Bool}
    {key : String × Direction} (h : (p.closing d r b q).settled.lookup key = some b') :
    (p.isFinal b q = true ∧ key = (r, d) ∧ b' = b) ∨ q.settled.lookup key = some b' := by
  unfold closing at h
  dsimp only at h
  split at h
  case isFalse => exact .inr h
  case isTrue hfinal =>
    rw [List.lookup_cons] at h
    split at h
    case h_1 heq =>
      cases h
      exact .inl ⟨hfinal, eq_of_beq heq, rfl⟩
    case h_2 => exact .inr h

end Probes

/-- Converting schemas one after the other, with the questions before and after, and the answers
whether there is anything to convert. -/
inductive Answers (c : Compiler) (d : Direction) :
    List Schema → Probes → List Bool → Probes → Prop
  | nil {p : Probes} : Answers c d [] p [] p
  | bool {accepts : Bool} {rest : List Schema} {p p' : Probes} {bs : List Bool}
      (more : Answers c d rest p bs p') :
      Answers c d (.bool accepts :: rest) p (false :: bs) p'
  | settled {r : String} {rest : List Schema} {p p' : Probes} {b : Bool} {bs : List Bool}
      (known : p.settled.lookup (r, d) = some b) (more : Answers c d rest p bs p') :
      Answers c d (.ref r :: rest) p (b :: bs) p'
  | opened {r : String} {rest : List Schema} {p p' : Probes} {place : Nat} {bs : List Bool}
      (found : p.opened.idxOf? r = some place)
      (more : Answers c d rest (p.leanOn place) bs p') :
      Answers c d (.ref r :: rest) p (false :: bs) p'
  | probed {r : String} {target : Schema} {rest : List Schema} {p q p' : Probes} {b : Bool}
      {bs : List Bool} (new : r ∉ p.opened)
      (target_eq : c.document.resolveAs r "schema" Schema.decode = .ok target)
      (inside : Answers c d [target] (p.opening r) [b] q)
      (more : Answers c d rest (p.closing d r b q) bs p') :
      Answers c d (.ref r :: rest) p (b :: bs) p'
  | inline {k : Keywords Schema} {o : Outline} {rest : List Schema} {p q p' : Probes} {b : Bool}
      {inner bs : List Bool} (outlined : c.Outlined k o) (testable : o.isTestable d)
      (inside : Answers c d o.inner p inner q) (answer : b = true ↔ o.converts d ∨ true ∈ inner)
      (more : Answers c d rest q bs p') :
      Answers c d (.inline k :: rest) p (b :: bs) p'

namespace Answers

variable {c : Compiler} {d : Direction}

theorem append {xs ys : List Schema} {p q p' : Probes} {bs bs' : List Bool}
    (h : Answers c d xs p bs q) (h' : Answers c d ys q bs' p') :
    Answers c d (xs ++ ys) p (bs ++ bs') p' := by
  induction h with
  | nil => exact h'
  | bool _ ih => exact .bool (ih h')
  | settled known _ ih => exact .settled known (ih h')
  | opened found _ ih => exact .opened found (ih h')
  | probed new target_eq inside _ _ ih => exact .probed new target_eq inside (ih h')
  | inline outlined testable inside answer _ _ ih => exact .inline outlined testable inside answer (ih h')

end Answers

/-- The conversion of the schema does not fail, as long as those behind the references in `V` do
not. -/
inductive Convertible (c : Compiler) (d : Direction) (V : Set String) : Schema → Prop
  | ref {r : String} (h : r ∈ V) : Convertible c d V (.ref r)
  | bool (accepts : Bool) : Convertible c d V (.bool accepts)
  | inline {k : Keywords Schema} {o : Outline} (outlined : c.Outlined k o)
      (testable : o.isTestable d) (inside : ∀ schema ∈ o.inner, Convertible c d V schema) :
      Convertible c d V (.inline k)

theorem Convertible.mono {c : Compiler} {d : Direction} {V V' : Set String} (hV : V ⊆ V')
    {schema : Schema} (h : Convertible c d V schema) : Convertible c d V' schema := by
  induction h with
  | ref h => exact .ref (hV h)
  | bool accepts => exact .bool accepts
  | inline outlined testable _ ih => exact .inline outlined testable ih

theorem Answers.convertible {c : Compiler} {d : Direction} {xs : List Schema} {p p' : Probes}
    {bs : List Bool} (h : Answers c d xs p bs p') :
    ∀ schema ∈ xs, Convertible c d Set.univ schema := by
  induction h with
  | nil => simp
  | bool _ ih => exact List.forall_mem_cons.2 ⟨.bool _, ih⟩
  | settled _ _ ih => exact List.forall_mem_cons.2 ⟨.ref (Set.mem_univ _), ih⟩
  | opened _ _ ih => exact List.forall_mem_cons.2 ⟨.ref (Set.mem_univ _), ih⟩
  | probed _ _ _ _ _ ih => exact List.forall_mem_cons.2 ⟨.ref (Set.mem_univ _), ih⟩
  | inline outlined testable _ _ _ ih ih' =>
    exact List.forall_mem_cons.2 ⟨.inline outlined testable ih, ih'⟩

namespace Compiler

variable {c : Compiler} {d : Direction} {convert : Convert} {r : String} {s s' : Progress}

/-! ## Questions -/

theorem hasConversion_settled {b : Bool} (known : s.probes.settled.lookup (r, d) = some b) :
    c.hasConversion d convert r s = .ok (b, s) := by
  unfold hasConversion
  rw [Compile.bind_apply_of_ok (Compile.get_apply s), known]
  rfl

theorem hasConversion_opened {place : Nat} (unknown : s.probes.settled.lookup (r, d) = none)
    (found : s.probes.opened.idxOf? r = some place) :
    c.hasConversion d convert r s = .ok (false, { s with probes := s.probes.leanOn place }) := by
  unfold hasConversion
  rw [Compile.bind_apply_of_ok (Compile.get_apply s), unknown, found]
  rfl

/-- A new question is answered by the conversion of the schema behind the reference. -/
theorem hasConversion_new (unknown : s.probes.settled.lookup (r, d) = none)
    (new : s.probes.opened.idxOf? r = none) :
    c.hasConversion d convert r s =
      ((c.document.resolveAs r "schema" Schema.decode).mapError CompileError.unresolved >>=
        fun target => convert target "value" { s with probes := s.probes.opening r }).map
          fun result => (result.1.isSome,
            { s with probes := s.probes.closing d r result.1.isSome result.2.probes }) := by
  unfold hasConversion
  rw [Compile.bind_apply_of_ok (Compile.get_apply s), unknown, new]
  cases (c.document.resolveAs r "schema" Schema.decode).mapError CompileError.unresolved with
  | error e => rfl
  | ok target =>
    show (convert target "value" >>= fun converted => (do
      let after ← get
      set { s with probes := s.probes.closing d r converted.isSome after.probes }
      pure converted.isSome : Compile Bool)) { s with probes := s.probes.opening r } =
        (convert target "value" { s with probes := s.probes.opening r }).map _
    rw [Compile.bind_apply]
    cases convert target "value" { s with probes := s.probes.opening r } with
    | error e => rfl
    | ok result => rfl

theorem hasConversion_target {target : Schema}
    (unknown : s.probes.settled.lookup (r, d) = none) (new : r ∉ s.probes.opened)
    (htarget : c.document.resolveAs r "schema" Schema.decode = .ok target) :
    c.hasConversion d convert r s =
      (convert target "value" { s with probes := s.probes.opening r }).map fun result =>
        (result.1.isSome,
          { s with probes := s.probes.closing d r result.1.isSome result.2.probes }) := by
  rw [hasConversion_new unknown (List.idxOf?_eq_none_iff.2 new), htarget]
  rfl

/-- The answer to a question is settled or the question is open already, or it is a new one: then the
schema behind the reference is converted, if there is one. -/
theorem hasConversion_cases (c : Compiler) (d : Direction) (convert : Convert) (r : String)
    (s : Progress) :
    (∃ b, s.probes.settled.lookup (r, d) = some b ∧ c.hasConversion d convert r s = .ok (b, s)) ∨
    (∃ place, s.probes.opened.idxOf? r = some place ∧
      c.hasConversion d convert r s = .ok (false, { s with probes := s.probes.leanOn place })) ∨
    (∃ cause, c.document.resolveAs r "schema" Schema.decode = .error cause ∧
      c.hasConversion d convert r s = .error (.unresolved cause)) ∨
    ∃ target, r ∉ s.probes.opened ∧
      c.document.resolveAs r "schema" Schema.decode = .ok target ∧
      c.hasConversion d convert r s =
        (convert target "value" { s with probes := s.probes.opening r }).map fun result =>
          (result.1.isSome,
            { s with probes := s.probes.closing d r result.1.isSome result.2.probes }) := by
  cases known : s.probes.settled.lookup (r, d) with
  | some b => exact .inl ⟨b, rfl, hasConversion_settled known⟩
  | none =>
    cases found : s.probes.opened.idxOf? r with
    | some place => exact .inr (.inl ⟨place, rfl, hasConversion_opened known found⟩)
    | none =>
      have hnew := List.idxOf?_eq_none_iff.1 found
      cases htarget : c.document.resolveAs r "schema" Schema.decode with
      | error cause =>
        refine .inr (.inr (.inl ⟨cause, rfl, ?_⟩))
        rw [hasConversion_new known found, htarget]
        rfl
      | ok target =>
        exact .inr (.inr (.inr ⟨target, hnew, rfl, hasConversion_target known hnew htarget⟩))

/-- A question that has an answer is settled, or open already, or the schema behind the reference is
converted. -/
theorem hasConversion_eq_ok {b : Bool} (h : c.hasConversion d convert r s = .ok (b, s')) :
    (s.probes.settled.lookup (r, d) = some b ∧ s' = s) ∨
    (∃ place, s.probes.opened.idxOf? r = some place ∧ b = false ∧
      s' = { s with probes := s.probes.leanOn place }) ∨
    ∃ target converted after, r ∉ s.probes.opened ∧
      c.document.resolveAs r "schema" Schema.decode = .ok target ∧
      convert target "value" { s with probes := s.probes.opening r } = .ok (converted, after) ∧
      b = converted.isSome ∧
      s' = { s with probes := s.probes.closing d r converted.isSome after.probes } := by
  rcases c.hasConversion_cases d convert r s with
    ⟨answer, known, heq⟩ | ⟨place, found, heq⟩ | ⟨cause, _, heq⟩ | ⟨target, new, htarget, heq⟩ <;>
    rw [heq] at h
  · cases h
    exact .inl ⟨known, rfl⟩
  · cases h
    exact .inr (.inl ⟨place, found, rfl, rfl⟩)
  · cases h
  · cases hinside : convert target "value" { s with probes := s.probes.opening r } with
    | error e => rw [hinside] at h; cases h
    | ok result =>
      rw [hinside] at h
      cases h
      exact .inr (.inr ⟨target, result.1, result.2, new, htarget, hinside, rfl, rfl⟩)

/-- Asking a question changes nothing but what is known about the questions. -/
theorem hasConversion_frame {b : Bool} (h : c.hasConversion d convert r s = .ok (b, s')) :
    ∃ probes, s' = { s with probes := probes } := by
  rcases hasConversion_eq_ok h with ⟨_, rfl⟩ | ⟨_, _, _, rfl⟩ | ⟨_, _, _, _, _, _, _, rfl⟩
  all_goals exact ⟨_, rfl⟩

/-! ## Functions -/

/-- A declared name as the file writes it. -/
def qualified (c : Compiler) (name : String) : String :=
  match c.qualifier with
  | none => name
  | some qualifier => qualifier ++ "." ++ name

theorem qualify_apply (c : Compiler) (name : String) (s : Progress) :
    ∃ ctx, c.qualify name s = .ok (c.qualified name, { s with context := ctx }) := by
  unfold qualify qualified
  cases c.qualifier with
  | none => exact ⟨s.context, rfl⟩
  | some qualifier => exact ⟨_, rfl⟩

theorem functionName_apply {name : String} (h : c.document.refName r = .ok name) (s : Progress) :
    ∃ ctx, c.functionName d r s =
      .ok (c.qualified (d.verb ++ Name.capitalized name), { s with context := ctx }) := by
  unfold functionName
  rw [h]
  exact c.qualify_apply _ s

theorem functionName_eq_ok {function : String} (h : c.functionName d r s = .ok (function, s')) :
    ∃ name ctx, c.document.refName r = .ok name ∧ s' = { s with context := ctx } ∧
      function = c.qualified (d.verb ++ Name.capitalized name) := by
  cases hname : c.document.refName r with
  | error cause =>
    unfold functionName at h
    rw [hname] at h
    cases h
  | ok name =>
    obtain ⟨ctx, happly⟩ := functionName_apply (d := d) hname s
    rw [happly] at h
    cases h
    exact ⟨name, ctx, rfl, rfl, rfl⟩

/-! ## Lack of depth -/

/-- A question that cannot be answered for lack of depth is a new one, and the schema behind the
reference is too deep. -/
theorem hasConversion_tooDeep (h : c.hasConversion d convert r s = .error .tooDeep) :
    r ∉ s.probes.opened ∧ ∃ target, c.document.resolveAs r "schema" Schema.decode = .ok target ∧
      convert target "value" { s with probes := s.probes.opening r } = .error .tooDeep := by
  rcases c.hasConversion_cases d convert r s with
    ⟨_, _, heq⟩ | ⟨_, _, heq⟩ | ⟨_, _, heq⟩ | ⟨target, new, htarget, heq⟩ <;> rw [heq] at h
  · cases h
  · cases h
  · cases h
  · refine ⟨new, target, htarget, ?_⟩
    cases hinside : convert target "value" { s with probes := s.probes.opening r } with
    | error e => rw [hinside] at h; cases h; rfl
    | ok result => rw [hinside] at h; cases h

theorem convertRef_tooDeep {needed : String → Compile Bool} {value : Code}
    (h : c.convertRef d needed r value s = .error .tooDeep) : needed r s = .error .tooDeep := by
  unfold convertRef at h
  rw [Compile.bind_apply] at h
  cases hneeded : needed r s with
  | error e => simpa [hneeded] using h
  | ok result =>
    obtain ⟨b, s'⟩ := result
    rw [hneeded] at h
    cases b with
    | false => cases h
    | true =>
      cases hname : c.document.refName r with
      | error cause => simp [functionName, hname, Compile.bind_apply, Except.mapError] at h
      | ok name =>
        obtain ⟨ctx, happly⟩ := functionName_apply (d := d) hname s'
        change (c.functionName d r >>= _) s' = _ at h
        rw [Compile.bind_apply_of_ok happly] at h
        cases h

/-! ## Conversions -/

/-- A question about a reference that is answered. -/
theorem hasConversion_answers {b : Bool}
    (hconvert : ∀ schema value s converted s', convert schema value s = .ok (converted, s') →
      Answers c d [schema] s.probes [converted.isSome] s'.probes)
    (h : c.hasConversion d convert r s = .ok (b, s')) :
    Answers c d [.ref r] s.probes [b] s'.probes := by
  rcases hasConversion_eq_ok h with ⟨known, rfl⟩ | ⟨place, found, rfl, rfl⟩ |
    ⟨target, converted, after, new, htarget, hinside, rfl, rfl⟩
  · exact .settled known .nil
  · exact .opened found .nil
  · exact .probed new htarget (hconvert _ _ _ _ _ hinside) .nil

theorem convertRef_answers {needed : String → Compile Bool} {value : Code}
    {converted : Option Code}
    (hneeded : ∀ s b s', needed r s = .ok (b, s') → Answers c d [.ref r] s.probes [b] s'.probes)
    (h : c.convertRef d needed r value s = .ok (converted, s')) :
    Answers c d [.ref r] s.probes [converted.isSome] s'.probes := by
  obtain ⟨b, s₁, hb, h⟩ := Compile.bind_eq_ok.1 h
  have answers := hneeded s b s₁ hb
  cases b with
  | false => cases h; exact answers
  | true =>
    obtain ⟨name, s₂, hname, h⟩ := Compile.bind_eq_ok.1 h
    cases h
    obtain ⟨_, ctx, _, rfl, _⟩ := functionName_eq_ok hname
    exact answers

theorem walk_answers {inner : List Schema} {answers : List Bool}
    (hconvert : ∀ schema value s converted s', convert schema value s = .ok (converted, s') →
      Answers c d [schema] s.probes [converted.isSome] s'.probes)
    (h : Walk convert inner s (.ok (answers, s'))) :
    Answers c d inner s.probes answers s'.probes := by
  induction inner generalizing s answers with
  | nil =>
    obtain ⟨ctx, h⟩ := h.eq_of_nil
    cases h
    exact .nil
  | cons first inner ih =>
    obtain ⟨value, ctx, converted, s₁, answers₁, hfirst, rest, rfl⟩ := h.ok_of_cons
    exact (hconvert _ _ _ _ _ hfirst).append (ih rest)

/-- A conversion that does not fail follows its outlines. -/
theorem convertTo_answers {depth : Nat} {schema : Schema} {value : Code} {converted : Option Code}
    (h : c.convertTo d depth schema value s = .ok (converted, s')) :
    Answers c d [schema] s.probes [converted.isSome] s'.probes := by
  induction depth generalizing schema value converted s s' with
  | zero => cases h
  | succ depth ih =>
    have hconvert : ∀ schema value s converted s',
        c.convertTo d depth schema value s = .ok (converted, s') →
          Answers c d [schema] s.probes [converted.isSome] s'.probes :=
      fun _ _ _ _ _ h => ih h
    cases schema with
    | bool accepts => cases h; exact .bool .nil
    | ref r =>
      exact convertRef_answers (fun _ _ _ h => hasConversion_answers hconvert h) h
    | inline k =>
      obtain ⟨r, s₁, hk, h⟩ := Compile.bind_eq_ok.1 h
      obtain ⟨o, answers, s₂, ctx, ho, ht, hw, rfl, hiff⟩ := convertKeywords_eq_ok hk
      cases h
      refine .inline ho ht (walk_answers hconvert hw) ?_ .nil
      split
      · simpa using hiff
      · exact hiff

end Compiler

end OpenApi

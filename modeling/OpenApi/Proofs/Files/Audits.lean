import OpenApi.Proofs.Code.Statements
import OpenApi.Proofs.Document.Depth
import OpenApi.Proofs.Files.Results
import OpenApi.Proofs.Files.Usage

/-!
Steps that write code. What a piece of code may refer to hangs on the usage that is recorded beside it,
and the usage only grows: so a step is judged by what it returns if all that is recorded in the end is
covered (`Writes`), and sequences of such steps are judged by their steps.
-/

namespace OpenApi

/-- A reader of a file together with what the file has: usages that are covered, and references behind
which there is something to convert. -/
structure Audit extends Reader where
  covers : Usage → Prop
  covers_within {u u' : Usage} : u.Within u' → covers u' → covers u
  mayConvert : String → Direction → Prop
  runtime {u : Usage} : covers u → u.runtime = true →
    toReader.isValue ['R', 'u', 'n', 't', 'i', 'm', 'e'] = true
  queryString {u : Usage} : covers u → u.queryString = true → toReader.isValue ['q', 's'] = true

variable {r : Audit}

/-- All that has been recorded is covered, and all that has been settled is right. -/
structure Audit.Covers (r : Audit) (s : Progress) : Prop where
  usage : r.covers s.context.usage
  settled {reference : String} {d : Direction} :
    s.probes.settled.lookup (reference, d) = some true → r.mayConvert reference d

/-- Whatever is recorded and settled there is recorded and settled here, too. -/
structure Progress.Within (s s' : Progress) : Prop where
  usage : s.context.usage.Within s'.context.usage
  settled {key : String × Direction} : s.probes.settled.lookup key = some true →
    s'.probes.settled.lookup key = some true

theorem Progress.Within.refl (s : Progress) : s.Within s := ⟨.refl _, id⟩

theorem Progress.Within.trans {s s' s'' : Progress} (h : s.Within s') (h' : s'.Within s'') :
    s.Within s'' := ⟨h.usage.trans h'.usage, fun hs => h'.settled (h.settled hs)⟩

theorem Audit.Covers.within {s s' : Progress} (h : r.Covers s') (hs : s.Within s') : r.Covers s :=
  ⟨r.covers_within hs.usage h.usage, fun hsettled => h.settled (hs.settled hsettled)⟩

/-- The code of the format is sound, whatever sound value it is applied to. -/
structure Reader.Treats (r : Reader) (format : Format) : Prop where
  type : r.Sound format.typeCode
  convert (d : Direction) {value : Code} (h : r.Value value) : r.Sound (format.convertCode d value)
  test {value : Code} (h : r.Value value) : ∀ test ∈ format.instanceCode? value, r.Sound test

/-- The code of the format is sound if its imports are covered. -/
def Audit.Admits (r : Audit) (format : Format) : Prop :=
  ∀ {u : Usage}, r.covers (u.withImports format.imports) → r.Treats format

/-- The word that a name begins with which the file writes with the alias for the types. -/
def Lex.Rules.qualifying (r : Lex.Rules) : Option String → List Char
  | none => []
  | some types => r.behind types.toList

/-- The audit fits the compiler: to the alias for the types, to all registered formats, and to the
functions for references behind which there is something to convert. -/
structure Audit.Suits (r : Audit) (c : Compiler) : Prop where
  qualifier : ∀ types ∈ c.qualifier, types.toList.all Name.isIdentifierPart = true ∧
    ∀ {u : Usage}, r.covers u → u.types = true → r.mayAccess types.toList = true
  formats {name : String} {format : Format} : c.formats.get? name = some format → r.Admits format
  functions {reference name : String} {d : Direction} : r.mayConvert reference d →
    c.document.refName reference = .ok name →
    r.mayCall (r.qualifying c.qualifier ++ (d.verb ++ Name.capitalized name).toList) = true

/-- If the step does not fail, it records what it needs, and its result has the property if all of that
is covered. -/
def Writes {m : Type → Type} [Monad m] [Yields m] {α : Type} (r : Audit)
    (step : StateT Progress m α) (P : α → Prop) : Prop :=
  ∀ s a s', Yields.yields (step s) (a, s') →
    s.Within s' ∧ (r.Covers s' → P a)

namespace Writes

section

variable {m : Type → Type} [Monad m] [Yields m] {α β : Type} {P : α → Prop} {Q : β → Prop}

theorem pure {a : α} (h : P a) : Writes r (Pure.pure a : StateT Progress m α) P := by
  intro s b s' hb
  cases Yields.yields_pure hb
  exact ⟨.refl _, fun _ => h⟩

/-- What the second step returns may hang on the property of what the first one has returned. -/
theorem bind {step : StateT Progress m α} {f : α → StateT Progress m β} (h : Writes r step P)
    (hf : ∀ a, Writes r (f a) fun b => P a → Q b) : Writes r (step >>= f) Q := by
  intro s b s' hb
  obtain ⟨a, s₁, ha, hb⟩ := Yields.step_bind hb
  obtain ⟨hwithin, hP⟩ := h s a s₁ ha
  obtain ⟨hwithin', hQ⟩ := hf a s₁ b s' hb
  exact ⟨hwithin.trans hwithin',
    fun hcovers => hQ hcovers (hP (hcovers.within hwithin'))⟩

theorem mono {P' : α → Prop} {step : StateT Progress m α} (h : Writes r step P')
    (hp : ∀ a, P' a → P a) : Writes r step P :=
  fun s a s' ha => ⟨(h s a s' ha).1, fun hcovers => hp a ((h s a s' ha).2 hcovers)⟩

theorem bind_pure {a : α} {f : α → StateT Progress m β} (h : Writes r (f a) Q) :
    Writes r (Pure.pure a >>= f) Q := by
  intro s b s' hb
  obtain ⟨_, _, ha, hb⟩ := Yields.step_bind hb
  cases Yields.yields_pure ha
  exact h s b s' hb

/-- Sequencing where the first step returns something with a property in any case. -/
theorem bind_known {step : StateT Progress m α} {f : α → StateT Progress m β}
    (h : ∀ s a s', Yields.yields (step s) (a, s') → s.Within s' ∧ P a)
    (hf : ∀ a, P a → Writes r (f a) Q) : Writes r (step >>= f) Q := by
  intro s b s' hb
  obtain ⟨a, s₁, ha, hb⟩ := Yields.step_bind hb
  obtain ⟨hwithin, hP⟩ := h s a s₁ ha
  obtain ⟨hwithin', hQ⟩ := hf a hP s₁ b s' hb
  exact ⟨hwithin.trans hwithin', hQ⟩

/-- Sequencing where the first step reads a value. -/
theorem bind_read {x : m α} {f : α → StateT Progress m β}
    (hf : ∀ a, Yields.yields x a → Writes r (f a) Q) :
    Writes r ((liftM x : StateT Progress m α) >>= f) Q := by
  intro s b s' hb
  obtain ⟨a, hx, hb⟩ := Yields.step_read hb
  exact hf a hx s b s' hb

theorem map {step : StateT Progress m α} (g : α → β) (h : Writes r step fun a => Q (g a)) :
    Writes r (g <$> step) Q := by
  intro s b s' hb
  obtain ⟨a, ha, rfl⟩ := Yields.step_map hb
  exact h s a s' ha

theorem ite {p : Prop} [Decidable p] {step step' : StateT Progress m α} (h : Writes r step P)
    (h' : Writes r step' P) : Writes r (if p then step else step') P := by
  split
  · exact h
  · exact h'

/-- If everything is covered, it does not matter how much has been recorded. -/
theorem ensures {step : StateT Progress m α} (h : Writes r step P) (hcovers : ∀ s, r.Covers s) :
    Ensures step P := fun s a s' ha => (h s a s' ha).2 (hcovers _)

/-- The results of a sequence are those of its steps. -/
theorem mapM [LawfulMonad m] {γ : Type} {f : γ → StateT Progress m β} {xs : List γ}
    (h : ∀ x ∈ xs, Writes r (f x) Q) : Writes r (xs.mapM f) fun ys => ∀ y ∈ ys, Q y := by
  induction xs with
  | nil => exact .pure (List.forall_mem_nil _)
  | cons x xs ih =>
    rw [List.mapM_cons]
    refine .bind (h x (by simp)) fun y => .bind (ih fun x hx => h x (by simp [hx])) fun ys => ?_
    exact .pure fun hys hy => List.forall_mem_cons.2 ⟨hy, hys⟩

theorem mapM_option {γ : Type} {f : γ → StateT Progress m β} {x? : Option γ}
    (h : ∀ x ∈ x?, Writes r (f x) Q) : Writes r (x?.mapM f) fun y? => ∀ y ∈ y?, Q y := by
  cases x? with
  | none => exact .pure nofun
  | some x => exact .bind (h x rfl) fun y => .pure fun hy _ h => Option.mem_some.1 h ▸ hy

end

variable {α β : Type} {P : α → Prop} {Q : β → Prop}

theorem throw (e : CompileError) : Writes r (MonadExcept.throw e : Compile α) P :=
  fun _ _ _ h => absurd h Yields.not_step_throw

/-- Nothing comes after a failure. -/
theorem throw_bind (e : CompileError) (f : α → Compile β) :
    Writes r ((MonadExcept.throw e : Compile α) >>= f) Q :=
  fun _ _ _ h => absurd h Yields.not_step_throw_bind

/-- A step that issues no warnings, among others that may. -/
theorem lift {step : Compile α} (h : Writes r step P) : Writes r (liftM step : Write α) P :=
  fun s a s' ha => h s a s' (Yields.step_lift ha)

/-- Reading a value among steps that may issue warnings. -/
theorem bind_read' {x : Except CompileError α} {f : α → Write β}
    (hf : ∀ a, x = .ok a → Writes r (f a) Q) : Writes r ((liftM x : Write α) >>= f) Q := by
  intro s b s' hb
  obtain ⟨a, hx, hb⟩ := Yields.step_read' hb
  exact hf a hx s b s' hb

/-! ## Names, and what is recorded -/

/-- Sequencing after a local name. -/
theorem bind_fresh {hint : List Char} {f : String → Compile β}
    (hhint : hint.all Name.isIdentifierPart = true)
    (hf : ∀ name : String, r.Operand name → Writes r (f name) Q) :
    Writes r (Compile.fresh (String.ofList hint) >>= f) Q := by
  refine bind_known (fun s name s' h => ?_) hf
  cases h
  exact ⟨⟨.refl _, id⟩, Reader.operand_local hhint _⟩

/-- Sequencing after a local name, among steps that may issue warnings. -/
theorem bind_fresh' {hint : List Char} {f : String → Write β}
    (hhint : hint.all Name.isIdentifierPart = true)
    (hf : ∀ name : String, r.Operand name → Writes r (f name) Q) :
    Writes r ((liftM (Compile.fresh (String.ofList hint)) : Write String) >>= f) Q := by
  refine bind_known (fun s name s' h => ?_) hf
  obtain ⟨issued, issued', h⟩ := h
  cases h
  exact ⟨⟨.refl _, id⟩, Reader.operand_local hhint _⟩

theorem use {change : Usage → Usage} (h : ∀ u : Usage, u.Within (change u)) :
    Writes r (Compile.use change) fun _ => ∃ u, r.covers (change u) := by
  intro s a s' hs
  cases hs
  exact ⟨⟨h _, id⟩, fun hcovers => ⟨_, hcovers.usage⟩⟩

theorem withImports (format : Format) :
    Writes r (Compile.use (·.withImports format.imports)) fun _ =>
      r.Admits format → r.Treats format :=
  (use fun u => u.within_withImports _).mono fun _ ⟨_, hcovers⟩ hadmits => hadmits hcovers

/-- A symbol of a module. -/
theorem symbol_reads {module symbol : List Char} (hmodule : module.all Name.isIdentifierPart = true)
    (hsymbol : symbol.all Lex.isOrdinary = true) (h : r.mayAccess module = true) :
    Lex.readAll r.toRules {} (r.glyphs (Code.site (String.ofList (module ++ '.' :: symbol)))) =
      some ⟨.code, [], Lex.endWord (r.behind module) symbol⟩ := by
  have hword : Lex.readAll r.toRules {} (module.map .char) = some ⟨.code, [], module⟩ :=
    Lex.readAll_identifier hmodule [] []
  have hdot : Lex.read r.toRules ⟨.code, [], module⟩ (.char '.') =
      some ⟨.code, [], r.behind module⟩ := if_pos h
  rw [Reader.glyphs_site, String.toList_ofList, List.map_append, List.map_cons,
    Lex.readAll_append_of_eq_some hword, Lex.readAll, hdot]
  exact Lex.readAll_ordinary hsymbol _ _

/-- A function of a module behind whose name nothing of the name is left. -/
theorem callee_symbol {module symbol : List Char} (hmodule : module.all Name.isIdentifierPart = true)
    (hsymbol : symbol ∈ Lex.vocabulary) (h : r.isValue module = true) :
    r.Callee (Code.site (String.ofList (module ++ '.' :: symbol))) := by
  have hpart := Lex.vocabulary_identifierPart symbol hsymbol
  have hreads := symbol_reads hmodule (Text.all_ordinary_of_identifierPart hpart)
    (Bool.and_eq_true_iff.1 h).1
  rw [Lex.Rules.behind_of_isValue h, Lex.endWord_of_all hpart] at hreads
  exact ⟨_, hreads, ⟨rfl, .inl rfl⟩, r.lenient.call _ (Lex.strict_mayCall_of_mem hsymbol)⟩

theorem runtime_eq (symbol : List Char) : ("Runtime." ++ String.ofList symbol) =
    String.ofList (['R', 'u', 'n', 't', 'i', 'm', 'e'] ++ '.' :: symbol) := by
  rw [← String.toList_inj]
  simp

theorem runtime {symbol : List Char} (hsymbol : symbol.all Lex.isOrdinary = true) :
    Writes r (Compile.runtime (String.ofList symbol)) fun text => r.Sound (Code.site text) := by
  refine .bind (use fun u => ⟨fun _ => rfl, id, id, fun h => ⟨_, h, List.Subset.refl _⟩⟩) fun _ => ?_
  refine .pure ?_
  rintro ⟨u, hcovers⟩
  rw [runtime_eq]
  exact ⟨_, symbol_reads (by decide) hsymbol (Bool.and_eq_true_iff.1 (r.runtime hcovers rfl)).1, rfl,
    .inl rfl⟩

/-- A function of the runtime. -/
theorem runtime_callee {symbol : List Char} (hsymbol : symbol ∈ Lex.vocabulary) :
    Writes r (Compile.runtime (String.ofList symbol)) fun text => r.Callee (Code.site text) := by
  refine .bind (use fun u => ⟨fun _ => rfl, id, id, fun h => ⟨_, h, List.Subset.refl _⟩⟩) fun _ => ?_
  refine .pure ?_
  rintro ⟨u, hcovers⟩
  rw [runtime_eq]
  exact callee_symbol (by decide) hsymbol (r.runtime hcovers rfl)

theorem throwMalformed (location name : String) {message : String}
    (hmessage : r.Sound (Code.site message)) :
    Writes r (Compile.throwMalformed location name message) fun text => r.Sound (Code.site text) := by
  refine .bind (runtime_callee (by decide)) fun error => .pure fun herror => ?_
  refine Reader.Fits.site ["throw new ", error, "(", Text.quoted location, ", ", Text.quoted name,
    ", ", message, ");"] (.text (.callee herror (.text (.complete (Reader.complete_quoted _) (.text
      (.complete (Reader.complete_quoted _) (.text (.sound hmessage (.text .nil))))))))) (by decide) ?_
  simp [String.join_cons, String.append_assoc]

end Writes

theorem Document.refName_eq_identifier {doc : Document} {reference name : String}
    (h : doc.refName reference = .ok name) : ∃ text, name = Name.identifier text := by
  obtain ⟨target, _, hname⟩ := Except.bind_eq_ok.1 h
  split at hname
  · cases hname
    exact ⟨_, rfl⟩
  · obtain ⟨segment, _, hname⟩ := Except.bind_eq_ok.1 hname
    cases hname
    exact ⟨_, rfl⟩

theorem Document.refName_identifierPart {doc : Document} {reference name : String}
    (h : doc.refName reference = .ok name) : name.toList.all Name.isIdentifierPart = true := by
  obtain ⟨text, rfl⟩ := refName_eq_identifier h
  exact Name.identifier_identifierPart text

theorem Document.refName_wordPart {doc : Document} {reference name : String}
    {f : ResolveError → CompileError} (h : (doc.refName reference).mapError f = .ok name) :
    name.toList.all Text.isWordPart = true :=
  Text.all_wordPart_of_identifierPart (refName_identifierPart (Except.mapError_eq_ok.1 h))

theorem Direction.function_identifierPart (d : Direction) {name : String}
    (h : name.toList.all Name.isIdentifierPart = true) :
    (d.verb ++ Name.capitalized name).toList.all Name.isIdentifierPart = true := by
  have hverb : d.verb.toList.all Name.isIdentifierPart = true := by cases d <;> decide
  rw [String.toList_append, List.all_append, hverb, Name.capitalized_identifierPart h]
  rfl

namespace Compiler

variable {c : Compiler} (hr : r.Suits c)

include hr

theorem qualify_reads {name : String} (hname : name.toList.all Lex.isOrdinary = true) :
    Writes r (c.qualify name) fun text =>
      Lex.readAll r.toRules {} (r.glyphs (Code.site text)) =
        some ⟨.code, [], Lex.endWord (r.qualifying c.qualifier) name.toList⟩ := by
  unfold qualify
  split
  case h_1 heq =>
    refine .pure ?_
    rw [heq, Reader.glyphs_site]
    exact Lex.readAll_ordinary hname _ _
  case h_2 types heq =>
    obtain ⟨hpart, haccess⟩ := hr.qualifier types heq
    refine .bind (.use fun u => ⟨id, fun _ => rfl, id, fun h => ⟨_, h, List.Subset.refl _⟩⟩) fun _ => ?_
    refine .pure ?_
    rintro ⟨u, hcovers⟩
    have hreads := Writes.symbol_reads hpart hname (haccess hcovers rfl)
    have htext : types ++ "." ++ name = String.ofList (types.toList ++ '.' :: name.toList) := by
      rw [← String.toList_inj]
      simp
    rw [htext, heq]
    exact hreads

theorem qualify_writes {name : String} (hname : name.toList.all Lex.isOrdinary = true) :
    Writes r (c.qualify name) fun text => r.Sound (Code.site text) :=
  (qualify_reads hr hname).mono fun _ h => ⟨_, h, rfl, .inl rfl⟩

end Compiler

end OpenApi

import OpenApi.Proofs.Conversion.Answers
import OpenApi.Proofs.Files.Results

/-!
Conversions of values that stay as they are. A compiler learns only at the end of its walk through a
schema that there is nothing to convert, and by then it may have converted many parts. All of them
stayed as they are, too: so the file needs nothing that it did not need before, and no more is left of
the walk than the numbers of the local names that it took (`convertTo_idle`).
-/

namespace OpenApi

/-- From one state to the other nothing has happened to the file, but that local names may be taken. -/
structure Progress.Idle (s s' : Progress) : Prop where
  usage : s'.context.usage = s.context.usage
  next : s.context.next ≤ s'.context.next

namespace Progress.Idle

variable {s s' s'' : Progress}

theorem refl (s : Progress) : s.Idle s := ⟨rfl, Nat.le_refl _⟩

theorem trans (h : s.Idle s') (h' : s'.Idle s'') : s.Idle s'' :=
  ⟨h'.usage.trans h.usage, Nat.le_trans h.next h'.next⟩

end Progress.Idle

/-- The step has done nothing to the file, if its result is none that something has been done for. -/
def Idles {α : Type} (m : Compile α) (nothing : α → Prop) : Prop :=
  ∀ s a s', m s = .ok (a, s') → nothing a → s.Idle s'

namespace Idles

variable {α β : Type} {m : Compile α} {P : α → Prop} {Q : β → Prop}

theorem pure (a : α) : Idles (Pure.pure a) P := by
  rintro s _ _ ⟨⟩ _
  exact .refl s

theorem throw (e : CompileError) : Idles (throw e : Compile α) P :=
  fun _ _ _ h => absurd h Yields.not_step_throw

theorem throw_bind (e : CompileError) {f : α → Compile β} :
    Idles ((MonadExcept.throw e : Compile α) >>= f) Q :=
  fun _ _ _ h => absurd h Yields.not_step_throw_bind

theorem fresh (hint : String) : Idles (Compile.fresh hint) fun _ => True := by
  rintro s _ _ ⟨⟩ _
  exact ⟨rfl, Nat.le_succ _⟩

/-- Sequencing where nothing has been done in the end only if nothing was done at first. -/
theorem bind {f : α → Compile β} (hm : Idles m P) (hf : ∀ a, P a → Idles (f a) Q)
    (back : ∀ a, Ensures (f a) fun b => Q b → P a) : Idles (m >>= f) Q := by
  intro s b s' h hb
  obtain ⟨a, s₁, ha, h⟩ := Compile.bind_eq_ok.1 h
  have hnothing : P a := back a s₁ b s' h hb
  exact (hm s a s₁ ha hnothing).trans (hf a hnothing s₁ b s' h hb)

/-- Sequencing where nothing is done at first. -/
theorem bind_always {f : α → Compile β} (hm : Idles m fun _ => True) (hf : ∀ a, Idles (f a) Q) :
    Idles (m >>= f) Q :=
  bind hm (fun a _ => hf a) fun _ => (Ensures.any _).mono fun _ _ _ => trivial

/-- Sequencing after which something has been done in any case. -/
theorem bind_never {f : α → Compile β} (h : ∀ a, Ensures (f a) fun b => ¬Q b) :
    Idles (m >>= f) Q :=
  bind (P := fun _ => False) (fun _ _ _ _ h => h.elim) (fun _ h => h.elim) h

/-- Reading a value first. -/
theorem read {x : Except CompileError α} {f : α → Compile β} (hf : ∀ a, Idles (f a) Q) :
    Idles (liftM x >>= f) Q := by
  cases x with
  | error e => exact throw_bind e
  | ok a => exact hf a

theorem ite {p : Prop} [Decidable p] {m' : Compile α} (h : Idles m P) (h' : Idles m' P) :
    Idles (if p then m else m') P := by
  split
  · exact h
  · exact h'

end Idles

namespace Compiler

variable {c : Compiler} {d : Direction} {convert : Convert} {value : Code}

/-! ## Strings, arrays and objects -/

theorem convertFormat_idle (format : Format) :
    Idles (convertFormat d format value) (· = none) :=
  .ite (.pure none) (.bind_never fun _ => .pure nofun)

theorem convertString_idle (k : Keywords Schema) :
    Idles (c.convertString d k value) (· = none) := by
  unfold convertString
  split
  · exact .pure none
  · exact .ite (.pure none) (.read fun format => convertFormat_idle format)

section

variable (hconvert : ∀ schema value, Idles (convert schema value) (· = none))

include hconvert

theorem convertArray_idle (items : Option Schema) :
    Idles (convertArray convert items value) (· = none) := by
  unfold convertArray
  split
  · exact .pure none
  · refine .bind_always (.fresh _) fun item => .bind (hconvert _ _) ?_ fun converted => ?_
    · rintro _ rfl
      exact .pure none
    · cases converted with
      | none => exact .pure fun _ => rfl
      | some converted => exact .pure nofun

theorem convertMembers_idle (required : List String) (base : Code)
    (properties : List (String × Schema)) :
    Idles (convertMembers convert required base properties) (· = []) := by
  induction properties with
  | nil => exact .pure []
  | cons property rest ih =>
    refine .bind (hconvert _ _) ?_ fun converted => ?_
    · rintro _ rfl
      exact .bind ih (fun _ _ => .pure _) fun _ => .pure id
    · refine .bind_any fun others => ?_
      cases converted with
      | none => exact .pure fun _ => rfl
      | some converted => exact .ite (.pure nofun) (.pure nofun)

theorem convertFurther_idle (k : Keywords Schema) (base : Code) :
    Idles (convertFurther convert k base) (· = none) := by
  unfold convertFurther
  split
  · refine .bind_always (.fresh _) fun key => .bind_always (.fresh _) fun entry =>
      .bind (hconvert _ _) ?_ fun converted => ?_
    · rintro _ rfl
      exact .pure none
    · cases converted with
      | none => exact .pure fun _ => rfl
      | some converted => exact .pure nofun
  · exact .pure none

theorem convertObject_idle (k : Keywords Schema) :
    Idles (convertObject convert k value) (· = none) := by
  -- the result tells that there were no members, and then that there was nothing further
  refine .bind (convertMembers_idle hconvert _ _ _) (fun members _ => ?_) fun members => ?_
  · refine .bind (convertFurther_idle hconvert _ _) (fun further _ => .ite (.pure _) (.pure _))
      fun further => .ite_of (fun hnone => .pure fun _ => ?_) fun _ => .pure nofun
    simp only [Bool.and_eq_true, Option.isNone_iff_eq_none] at hnone
    exact hnone.2
  · refine .bind_any fun further => .ite_of (fun hnone => .pure fun _ => ?_) fun _ => .pure nofun
    simp only [Bool.and_eq_true, List.isEmpty_iff] at hnone
    exact hnone.1

/-! ## Unions -/

theorem mapCases_idle (cases : List (String × String)) :
    Idles (cases.mapM fun (tag, reference) => return (tag, ← convert (.ref reference) value))
      fun converted => converted.all (fun case : String × Option Code => case.2.isNone) = true := by
  induction cases with
  | nil => exact .pure []
  | cons case rest ih =>
    rw [List.mapM_cons]
    have one : Idles (do return (case.1, ← convert (.ref case.2) value) :
        Compile (String × Option Code)) (·.2 = none) :=
      .bind (hconvert _ _) (fun _ _ => .pure _) fun _ => .pure id
    refine .bind one (fun first _ => .bind ih (fun _ _ => .pure _) fun others => .pure ?_)
      fun first => .bind_any fun others => .pure ?_
    · simp only [List.all_cons, Bool.and_eq_true]
      exact And.right
    · simp only [List.all_cons, Bool.and_eq_true, Option.isNone_iff_eq_none]
      exact And.left

theorem convertDiscriminated_idle (branches : List Schema) (discriminator : Discriminator) :
    Idles (convertDiscriminated convert branches discriminator value) (· = none) := by
  refine .read fun cases => .bind (mapCases_idle hconvert cases) (fun converted hnone => ?_)
    fun converted => .ite_of (fun hnone => .pure fun _ => hnone) fun _ => .bind_any fun _ => .pure nofun
  rw [if_pos hnone]
  exact .pure none

theorem convertArrays_idle (arrays : List Schema) :
    Idles (convertArrays convert arrays value) (· = none) := by
  unfold convertArrays
  split
  · exact .pure none
  · exact convertArray_idle hconvert _
  · exact convertArray_idle hconvert _

theorem convertBranch_idle (branches : List Schema) :
    Idles (convertBranch convert branches value) (· = none) := by
  unfold convertBranch
  split
  · exact .pure none
  · exact hconvert _ _

theorem convertShapes_idle (shapes : UnionShapes) :
    Idles (convertShapes convert shapes value) fun p => p.1 = none ∧ p.2 = none :=
  .bind (convertBranch_idle hconvert _)
    (fun _ _ => .bind (convertArrays_idle hconvert _) (fun _ _ => .pure _) fun _ => .pure And.right)
    fun _ => .bind_any fun _ => .pure And.left

/-- A union has code written for it only if one of its branches or formats changes something. -/
theorem convertUnion_idle (branches : List Schema) :
    Idles (c.convertUnion d convert branches value) (· = none) := by
  refine .read fun shapes => .ite (.throw_bind _) ?_
  refine .bind (convertShapes_idle hconvert shapes) (fun converted _ => ?_) fun converted => ?_
  · exact .ite (.pure none) (.bind_never fun _ => .pure nofun)
  · refine .ite_of (fun hnone => .pure fun _ => ?_) fun _ => .bind_any fun _ => .pure nofun
    simp only [Bool.and_eq_true, Option.isNone_iff_eq_none] at hnone
    exact hnone.1

/-! ## Schemas -/

theorem convertKeywords_idle (depth : Nat) (k : Keywords Schema) :
    Idles (c.convertKeywords d depth convert k value) (· = none) := by
  apply convertKeywords_cases (motive := fun m => Idles m (· = none))
  case object => exact fun k => convertObject_idle hconvert k
  case array => exact convertArray_idle hconvert _
  case string => exact convertString_idle k
  case discriminated => exact fun _ => convertDiscriminated_idle hconvert _ _
  case union => exact convertUnion_idle hconvert _
  case failed => exact .throw
  case unchanged => exact .pure none

end

/-- Whatever is converted to answer a question about a reference is not written to the file. -/
theorem hasConversion_idle (reference : String) :
    Idles (c.hasConversion d convert reference) fun _ => True := by
  intro s b s' h _
  obtain ⟨_, rfl⟩ := hasConversion_frame h
  exact ⟨rfl, Nat.le_refl _⟩

theorem convertRef_idle {needed : String → Compile Bool}
    (hneeded : ∀ reference, Idles (needed reference) fun _ => True) (reference : String) :
    Idles (c.convertRef d needed reference value) (· = none) :=
  .bind_always (hneeded reference) fun _ =>
    .ite (.bind_never fun _ => .pure nofun) (.pure none)

/-- A conversion that has nothing to convert has done nothing to the file. -/
theorem convertTo_idle (depth : Nat) (schema : Schema) (value : Code) :
    Idles (c.convertTo d depth schema value) (· = none) := by
  induction depth generalizing schema value with
  | zero => exact .throw _
  | succ depth ih =>
    cases schema with
    | bool accepts => exact .pure none
    | ref reference => exact convertRef_idle (fun reference => hasConversion_idle reference) reference
    | inline k =>
      refine .bind (convertKeywords_idle ih depth k) (fun converted _ => .pure _) fun converted =>
        .pure fun hnone => ?_
      split at hnone
      · exact Option.map_eq_none_iff.1 hnone
      · exact hnone

end Compiler

/-- Where a schema has nothing to convert, at whatever depth it is met, the file needs what it needed
before: of the walk through the schema nothing is left but the local names that have been taken and the
answers about references. And the value stays the code that it is. -/
theorem convert_unchanged {c : Compiler} {d : Direction} {depth : Nat} {schema : Schema} {value : Code}
    {s s' : Progress} (h : c.convertTo d depth schema value s = .ok (none, s')) :
    s'.context.usage = s.context.usage ∧ s.context.next ≤ s'.context.next ∧
      (depth = c.depth schema → c.convert d schema value s = .ok (value, s')) := by
  have idle := c.convertTo_idle depth schema value s none s' h rfl
  refine ⟨idle.usage, idle.next, ?_⟩
  rintro rfl
  exact Compile.bind_apply_of_ok h

/-- Notes with the notes that answer them, and no format anywhere. -/
def threads : Compiler where
  document :=
    { raw := .object [("components", .object [("schemas", .object [("Note", .object [
        ("properties", .object [
          ("text", .object [("type", .string "string")]),
          ("replies", .object [
            ("items", .object [("$ref", .string "#/components/schemas/Note")])])])])])])]
      spec := default }
  formats := Registry.builtin "./runtime"

/-- Addresses and lists of notes, numbers and lists of addresses. -/
def threadBoard : Keywords Schema where
  additionalProperties := some (.schema (.inline { type := some .string, format := some "ipv4" }))
  properties := [("all", .inline { items := some (.inline {
    oneOf := [.ref "#/components/schemas/Note", .inline { type := some .number },
      .inline { items := some (.inline { type := some .string, format := some "ipv4" }) }] }) })]

/-- A file that needs the runtime and has seven local names. -/
def startedFile : Progress := { context := { next := 7, usage := { runtime := true } } }

/-- Names for lists, items, keys and entries are taken, and the file needs the runtime as before. -/
theorem convert_unchanged_threadBoard : ∃ s',
    threads.convertTo .parse (threads.depth (.inline threadBoard)) (.inline threadBoard) "x"
      startedFile = .ok (none, s') ∧
    s'.context.next = 11 ∧ s'.context.usage = { runtime := true } ∧
    threads.convert .parse (.inline threadBoard) "x" startedFile = .ok ("x", s') := by
  obtain ⟨⟨converted, s'⟩, h, hresult⟩ := Except.eq_ok_of_any
    (show (threads.convertTo .parse (threads.depth (.inline threadBoard)) (.inline threadBoard) "x"
      startedFile).toOption.any
        (fun result => result.1.isNone && decide (result.2.context.next = 11)) = true by
      decide +kernel)
  obtain ⟨rfl, hnext⟩ : converted = none ∧ s'.context.next = 11 := by simpa using hresult
  obtain ⟨husage, _, hvalue⟩ := convert_unchanged h
  exact ⟨s', h, hnext, husage, hvalue rfl⟩

end OpenApi

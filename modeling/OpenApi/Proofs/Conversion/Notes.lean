import OpenApi.Proofs.Conversion.Depth
import OpenApi.Proofs.Files.Usage

/-!
What the conversion of a schema leaves behind in the context of the file. `Notes` says of a step whether
it leaves anything behind, whatever is there already, and `Noted` says of a schema whether its conversion
does, by its outline and those of the schemas inside. Both say the same (`Compiler.convertTo_notes`).
-/

namespace OpenApi

/-! ## Steps that take notes -/

/-- What a conversion can leave behind in the context. -/
inductive Note where
  /-- a local name is taken -/
  | name
  /-- the code needs the runtime -/
  | runtime
  /-- the code needs the declared types -/
  | types
  /-- the code needs these symbols, and there are some -/
  | imports (first : String × List String) (rest : Members (List String))

/-- The context with one more note. -/
def Context.note (ctx : Context) : Note → Context
  | .name => { ctx with next := ctx.next + 1 }
  | .runtime => { ctx with usage := { ctx.usage with runtime := true } }
  | .types => { ctx with usage := { ctx.usage with types := true } }
  | .imports first rest => { ctx with usage := ctx.usage.withImports (first :: rest) }

theorem Context.note_ne (ctx : Context) (n : Note) : ctx.note n ≠ {} := by
  intro h
  cases n with
  | name => exact Nat.succ_ne_zero _ (congrArg Context.next h)
  | runtime => exact Bool.noConfusion (congrArg (fun ctx => ctx.usage.runtime) h)
  | types => exact Bool.noConfusion (congrArg (fun ctx => ctx.usage.types) h)
  | imports first rest =>
    obtain ⟨known, hmem, _⟩ :=
      Usage.needs_withImports ctx.usage (first :: rest) first (List.mem_cons_self ..)
    have hnone : (ctx.usage.withImports (first :: rest)).imports = [] :=
      congrArg (fun ctx => ctx.usage.imports) h
    rw [hnone] at hmem
    cases hmem

/-- Notes show in a context that was empty. -/
theorem Context.foldl_note_eq_iff {notes : List Note} :
    notes.foldl Context.note {} = {} ↔ notes = [] := by
  constructor
  · intro h
    induction notes using List.reverseRecOn with
    | nil => rfl
    | append_singleton notes n =>
      rw [List.foldl_append] at h
      exact absurd h (Context.note_ne _ n)
  · rintro rfl
    rfl

/-- Where the questions satisfy `inv`, the step takes notes if and only if `P`, if it has a result.
Afterwards the questions satisfy `inv` and the result `post`. -/
def Notes {α : Type} (inv : Probes → Prop) (m : Compile α) (P : Prop) (post : α → Prop) : Prop :=
  ∀ s a s', inv s.probes → m s = .ok (a, s') → inv s'.probes ∧ post a ∧
    ∃ notes : List Note, s'.context = notes.foldl Context.note s.context ∧ (notes = [] ↔ ¬P)

namespace Notes

variable {α β : Type} {inv : Probes → Prop} {m : Compile α} {P Q : Prop} {post : α → Prop}

theorem pure {a : α} (h : post a) : Notes inv (pure a) False post := by
  intro s _ _ hs h'
  cases h'
  exact ⟨hs, h, [], rfl, by simp⟩

theorem mono (h : Notes inv m P post) {post' : α → Prop} (hP : P ↔ Q)
    (hpost : ∀ a, post a → post' a) : Notes inv m Q post' := by
  intro s a s' hs hm
  obtain ⟨hs', ha, notes, heq, hiff⟩ := h s a s' hs hm
  exact ⟨hs', hpost a ha, notes, heq, hiff.trans (not_congr hP)⟩

theorem congr (h : Notes inv m P post) (hP : P ↔ Q) : Notes inv m Q post := h.mono hP fun _ => id

/-- A result that is there without a step. -/
theorem pure_of_not {a : α} (h : post a) (hQ : ¬Q) : Notes inv (Pure.pure a) Q post :=
  (pure h).congr (iff_of_false id hQ)

theorem bind {f : α → Compile β} {post' : β → Prop} (hm : Notes inv m P post)
    (hf : ∀ a, post a → Notes inv (f a) Q post') : Notes inv (m >>= f) (P ∨ Q) post' := by
  intro s b s'' hs h
  obtain ⟨a, s', hm', hf'⟩ := Compile.bind_eq_ok.1 h
  obtain ⟨hs', ha, notes, heq, hiff⟩ := hm s a s' hs hm'
  obtain ⟨hs'', hb, notes', heq', hiff'⟩ := hf a ha s' b s'' hs' hf'
  refine ⟨hs'', hb, notes ++ notes', ?_, ?_⟩
  · rw [heq', heq, List.foldl_append]
  · rw [List.append_eq_nil_iff, hiff, hiff', not_or]

/-- Going on without taking notes. -/
theorem bind_pure {f : α → Compile β} {post' : β → Prop} (hm : Notes inv m P post)
    (hf : ∀ a, post a → Notes inv (f a) False post') : Notes inv (m >>= f) P post' :=
  (hm.bind hf).congr (by simp)

/-- Reading a value first. -/
theorem read {x : Except CompileError α} {f : α → Compile β} {post' : β → Prop}
    (hf : ∀ a, x = .ok a → Notes inv (f a) Q post') : Notes inv (liftM x >>= f) Q post' := by
  cases x with
  | error e => exact fun _ _ _ _ h => by cases h
  | ok a => exact hf a rfl

theorem throw (e : CompileError) : Notes inv (throw e : Compile α) P post :=
  fun _ _ _ _ h => by cases h

theorem fresh (hint : String) : Notes inv (Compile.fresh hint) True fun _ => True := by
  intro s _ _ hs h
  cases h
  exact ⟨hs, trivial, [.name], rfl, by simp⟩

theorem throwMalformed (location name message : String) :
    Notes inv (Compile.throwMalformed location name message) True fun _ => True := by
  intro s _ _ hs h
  cases h
  exact ⟨hs, trivial, [.runtime], rfl, by simp⟩

/-- Imports are noted if there are any. -/
theorem withImports (imports : Members (List String)) :
    Notes inv (Compile.use (·.withImports imports)) (imports ≠ []) fun _ => True := by
  intro s _ _ hs h
  cases h
  cases imports with
  | nil => exact ⟨hs, trivial, [], rfl, by simp⟩
  | cons first rest => exact ⟨hs, trivial, [.imports first rest], rfl, by simp⟩

end Notes

/-! ## Strings, arrays and objects -/

/-- One of the formats changes the value and comes with imports. -/
def Outline.imports (o : Outline) (d : Direction) : Prop :=
  ∃ f ∈ o.formats, (f.template d).isIdentity = false ∧ f.imports ≠ []

namespace Compiler

variable {c : Compiler} {d : Direction} {convert : Convert} {inv : Probes → Prop}
  {N C : Schema → Prop}

/-- The conversions of the schemas take notes where `N` says so, and change a value where `C` says so. -/
def Tracked (inv : Probes → Prop) (N C : Schema → Prop) (convert : Convert) (schemas : List Schema) :
    Prop :=
  ∀ schema ∈ schemas, ∀ value,
    Notes inv (convert schema value) (N schema) fun r => r.isSome = true ↔ C schema

theorem tracked_cons {schema : Schema} {rest : List Schema} :
    Tracked inv N C convert (schema :: rest) ↔
      (∀ value, Notes inv (convert schema value) (N schema) fun r => r.isSome = true ↔ C schema) ∧
        Tracked inv N C convert rest := List.forall_mem_cons

theorem tracked_append {schemas more : List Schema} :
    Tracked inv N C convert (schemas ++ more) ↔
      Tracked inv N C convert schemas ∧ Tracked inv N C convert more := List.forall_mem_append

theorem exists_mem_append {P : Schema → Prop} {schemas more : List Schema} :
    (∃ schema ∈ schemas ++ more, P schema) ↔
      (∃ schema ∈ schemas, P schema) ∨ ∃ schema ∈ more, P schema := by
  simp only [List.mem_append, or_and_right, exists_or]

theorem convertFormat_notes (d : Direction) (format : Format) (value : Code) :
    Notes inv (convertFormat d format value)
      ((format.template d).isIdentity = false ∧ format.imports ≠ [])
      fun r => r.isSome = true ↔ (format.template d).isIdentity = false := by
  unfold convertFormat
  split
  case isTrue h => exact .pure_of_not (by simp [h]) (by simp [h])
  case isFalse h =>
    replace h : (format.template d).isIdentity = false := by simpa using h
    exact ((Notes.withImports _).bind_pure fun _ _ => .pure (by simp [h])).congr (by simp [h])

theorem convertString_notes {k : Keywords Schema} {o : Outline} (ho : c.stringOutline k = .ok o)
    (value : Code) : Notes inv (c.convertString d k value) (o.imports d)
      fun r => r.isSome = true ↔ o.converts d := by
  unfold convertString
  unfold stringOutline at ho
  cases hformat : k.format with
  | none =>
    rw [hformat] at ho
    cases ho
    exact .pure_of_not (by simp [Outline.converts]) (by simp [Outline.imports])
  | some name =>
    rw [hformat] at ho
    dsimp only at ho ⊢
    split
    case isTrue hliteral =>
      rw [if_pos hliteral] at ho
      cases ho
      exact .pure_of_not (by simp [Outline.converts]) (by simp [Outline.imports])
    case isFalse hliteral =>
      rw [if_neg hliteral] at ho
      refine .read fun format hrequire => ?_
      rw [hrequire] at ho
      cases ho
      exact (convertFormat_notes d format value).mono (by simp [Outline.imports])
        (by simp [Outline.converts])

theorem convertArray_notes {items : Option Schema} (h : Tracked inv N C convert items.toList)
    (value : Code) :
    Notes inv (convertArray convert items value) (items.toList ≠ [])
      fun r => r.isSome = true ↔ ∃ schema ∈ items.toList, C schema := by
  unfold convertArray
  cases items with
  | none => exact .pure_of_not (by simp) (by simp)
  | some items =>
    refine ((Notes.fresh "item").bind fun item _ =>
      ((h items (by simp) _).bind_pure fun r hr => ?_)).congr (P := True ∨ N items) (by simp)
    cases r with
    | none => exact .pure (by simpa using hr)
    | some converted => exact .pure (by simpa using hr)

theorem convertMembers_notes {properties : List (String × Schema)} (required : List String)
    (base : Code) (h : Tracked inv N C convert (properties.map (·.2))) :
    Notes inv (convertMembers convert required base properties)
      (∃ schema ∈ properties.map (·.2), N schema)
      fun members => members ≠ [] ↔ ∃ schema ∈ properties.map (·.2), C schema := by
  induction properties with
  | nil => exact .pure_of_not (by simp) (by simp)
  | cons property rest ih =>
    obtain ⟨name, schema⟩ := property
    rw [List.map_cons, tracked_cons] at h
    refine ((h.1 _).bind fun r hr => (ih h.2).bind_pure fun others hothers => ?_).congr
      (by rw [List.map_cons, List.exists_mem_cons_iff])
    cases r with
    | none =>
      refine .pure ?_
      rw [hothers, List.map_cons, List.exists_mem_cons_iff, ← hr]
      simp
    | some converted =>
      have : C schema := hr.1 rfl
      dsimp only
      split <;> exact .pure (by simp [this])

theorem convertFurther_notes {k : Keywords Schema}
    (h : Tracked inv N C convert k.furtherSchemas) (base : Code) :
    Notes inv (convertFurther convert k base) (k.furtherSchemas ≠ [])
      fun r => r.isSome = true ↔ ∃ schema ∈ k.furtherSchemas, C schema := by
  unfold convertFurther
  unfold Keywords.furtherSchemas at h ⊢
  generalize k.additionalProperties = additional at h ⊢
  rcases additional with _ | _ | schema
  case none => exact .pure_of_not (by simp) (by simp)
  case some.any => exact .pure_of_not (by simp) (by simp)
  case some.schema =>
    refine ((Notes.fresh "key").bind fun key _ => (Notes.fresh "entry").bind fun entry _ =>
      ((h schema (by simp) _).bind_pure fun r hr => ?_)).congr (by simp)
    cases r with
    | none => exact .pure (by simpa using hr)
    | some converted => exact .pure (by simpa using hr)

theorem convertObject_notes {k : Keywords Schema}
    (h : Tracked inv N C convert k.memberSchemas) (value : Code) :
    Notes inv (convertObject convert k value)
      (k.furtherSchemas ≠ [] ∨ ∃ schema ∈ k.memberSchemas, N schema)
      fun r => r.isSome = true ↔ ∃ schema ∈ k.memberSchemas, C schema := by
  unfold Keywords.memberSchemas at h ⊢
  rw [tracked_append] at h
  refine ((convertMembers_notes k.required _ h.1).bind fun members hmembers =>
    (convertFurther_notes h.2 _).bind_pure fun further hfurther => ?_).congr ?_
  · have hnone : (members.isEmpty && further.isNone) = true ↔
        ¬∃ schema ∈ k.properties.map (·.2) ++ k.furtherSchemas, C schema := by
      rw [exists_mem_append, ← hmembers, ← hfurther]
      simp
    split
    case isTrue hempty => exact .pure (by simpa using hnone.1 hempty)
    case isFalse hsome => exact .pure (iff_of_true rfl (not_not.1 (mt hnone.2 hsome)))
  · rw [exists_mem_append]
    constructor
    · rintro (h | h)
      · exact .inr (.inl h)
      · exact .inl h
    · rintro (h | h | ⟨schema, hmem, _⟩)
      · exact .inr h
      · exact .inl h
      · exact .inr (List.ne_nil_of_mem hmem)

/-! ## Unions -/

theorem mapCases_notes {cases : List (String × String)} (value : Code)
    (h : Tracked inv N C convert (cases.map (fun case => Schema.ref case.2))) :
    Notes inv
      (cases.mapM fun (tag, reference) => return (tag, ← convert (.ref reference) value))
      (∃ schema ∈ cases.map fun case => Schema.ref case.2, N schema)
      fun converted => converted.all (fun case : String × Option Code => case.2.isNone) = false ↔
        ∃ schema ∈ cases.map fun case => Schema.ref case.2, C schema := by
  induction cases with
  | nil => exact .pure_of_not (by simp) (by simp)
  | cons case rest ih =>
    rw [List.map_cons, tracked_cons] at h
    rw [List.mapM_cons, List.map_cons]
    simp only [List.exists_mem_cons_iff]
    have one : Notes inv
        (do return (case.1, ← convert (.ref case.2) value) : Compile (String × Option Code))
        (N (.ref case.2)) fun converted => converted.2.isSome = true ↔ C (.ref case.2) :=
      (h.1 value).bind_pure fun r hr => .pure hr
    refine one.bind fun first hfirst => (ih h.2).bind_pure fun others hothers => .pure ?_
    rw [← hfirst, ← hothers, List.all_cons]
    rcases first with ⟨tag, _ | converted⟩ <;> simp

theorem convertDiscriminated_notes {branches : List Schema} {discriminator : Discriminator}
    {o : Outline} (ho : discriminatedOutline branches discriminator = .ok o)
    (h : Tracked inv N C convert o.inner) (value : Code) :
    Notes inv (convertDiscriminated convert branches discriminator value)
      ((∃ schema ∈ o.inner, N schema) ∨ ∃ schema ∈ o.inner, C schema)
      fun r => r.isSome = true ↔ ∃ schema ∈ o.inner, C schema := by
  refine .read fun cases hcases => ?_
  rw [discriminatedOutline, hcases] at ho
  cases ho
  refine (mapCases_notes value h).bind fun converted hconverted => ?_
  cases hall : converted.all (·.2.isNone) with
  | true =>
    have hno := mt hconverted.2 (by simp [hall])
    exact .pure_of_not (by simpa using hno) hno
  | false =>
    have hyes := hconverted.1 hall
    refine .congr (.bind_pure (.throwMalformed _ _ _) fun _ _ => .pure ?_) (iff_of_true trivial hyes)
    exact iff_of_true rfl hyes

theorem serializeFormats_notes (value : Code) {formats : List Format}
    (h : ∀ f ∈ formats, (f.template .serialize).isIdentity = false) :
    Notes inv (serializeFormats value formats) (∃ f ∈ formats, f.imports ≠ []) fun _ => True := by
  induction formats with
  | nil => exact .pure_of_not trivial (by simp)
  | cons format rest ih =>
    rw [List.forall_mem_cons] at h
    unfold serializeFormats
    split
    · refine ((convertFormat_notes _ format value).bind fun converted _ =>
        (ih h.2).bind_pure fun _ _ => .pure trivial).congr ?_
      rw [List.exists_mem_cons_iff, h.1]
      simp
    · exact .throw _

theorem parseFormats_notes (value : Code) {formats : List Format}
    (h : ∀ f ∈ formats, (f.template .parse).isIdentity = false) :
    Notes inv (parseFormats value formats) (∃ f ∈ formats, f.imports ≠ []) fun _ => True := by
  induction formats with
  | nil => exact .pure_of_not trivial (by simp)
  | cons format rest ih =>
    rw [List.forall_mem_cons] at h
    unfold parseFormats at ih ⊢
    rw [List.mapM_cons]
    have one : Notes inv
        (do
          let converted ← convertFormat .parse format value
          return Code.cat ["try ", (converted.getD value).returned.braced, " catch \x7b\x7d"] :
          Compile Code) (format.imports ≠ []) fun _ => True :=
      ((convertFormat_notes _ format value).bind_pure fun _ _ => .pure trivial).congr
        (by rw [h.1]; simp)
    exact (one.bind fun _ _ => (ih h.2).bind_pure fun _ _ => .pure trivial).congr
      (by rw [List.exists_mem_cons_iff])

/-- The statements for the branches of a union note the imports of the formats, and the runtime unless
the union takes any value. -/
theorem unionStatements_notes (d : Direction) (shapes : UnionShapes) (object array : Option Code)
    (value : Code) :
    Notes inv (unionStatements d shapes object array value)
      ((∃ f ∈ changingFormats d shapes, f.imports ≠ []) ∨ shapes.any = false) fun _ => True := by
  have hchanging : ∀ f ∈ changingFormats d shapes, (f.template d).isIdentity = false :=
    fun f hf => (mem_changingFormats.1 hf).2
  have others : Notes inv (unionOthers shapes value) (shapes.any = false) fun _ => True := by
    unfold unionOthers
    split
    case isTrue hany => exact .pure_of_not trivial (by simp [hany])
    case isFalse hany =>
      exact ((Notes.throwMalformed _ _ _).bind_pure fun _ _ => .pure trivial).congr
        (by simpa using hany)
  have instances : Notes inv (unionInstances d shapes value)
      (d = .serialize ∧ ∃ f ∈ changingFormats d shapes, f.imports ≠ []) fun _ => True := by
    cases d with
    | parse => exact .pure_of_not trivial (by simp)
    | serialize => exact (serializeFormats_notes value hchanging).congr (by simp)
  have strings : Notes inv (unionStrings d shapes value)
      (d = .parse ∧ ∃ f ∈ changingFormats d shapes, f.imports ≠ []) fun _ => True := by
    unfold unionStrings
    cases d with
    | parse =>
      exact .congr ((parseFormats_notes value hchanging).bind_pure fun _ _ => .pure trivial) (by simp)
    | serialize => exact .pure_of_not trivial (by simp)
  refine .congr (instances.bind fun _ _ => strings.bind fun _ _ => others.bind_pure fun _ _ =>
    .pure trivial) ?_
  cases d <;> simp

theorem convertBranch_notes {objects : List Schema} (hone : objects.length ≤ 1)
    (h : Tracked inv N C convert objects) (value : Code) :
    Notes inv (convertBranch convert objects value) (∃ schema ∈ objects, N schema)
      fun r => r.isSome = true ↔ ∃ schema ∈ objects, C schema := by
  rcases objects with _ | ⟨branch, _ | ⟨other, rest⟩⟩
  · exact .pure_of_not (by simp) (by simp)
  · exact (h branch (by simp) value).mono (by simp) (by simp)
  · simp at hone

theorem convertArrays_notes {shapes : UnionShapes}
    (h : Tracked inv N C convert shapes.itemSchemas) (value : Code) :
    Notes inv (convertArrays convert shapes.arrays value) (shapes.arrays ≠ [])
      fun r => r.isSome = true ↔ ∃ schema ∈ shapes.itemSchemas, C schema := by
  unfold UnionShapes.itemSchemas at h ⊢
  unfold convertArrays
  generalize shapes.arrays = arrays at h ⊢
  rcases arrays with _ | ⟨items, _ | ⟨other, rest⟩⟩
  · exact .pure_of_not (by simp) (by simp)
  · exact (@convertArray_notes convert inv N C (some items) h value).congr (by simp)
  · exact (@convertArray_notes convert inv N C (some (.inline { oneOf := items :: other :: rest })) h
      value).congr (by simp)

theorem unionConversion_notes {d : Direction} {shapes : UnionShapes} {object array : Option Code}
    (value : Code) :
    Notes inv (unionConversion d shapes object array value)
      ((∃ f ∈ changingFormats d shapes, f.imports ≠ []) ∨ shapes.any = false ∧
        ((object.isSome = true ∨ array.isSome = true) ∨ changingFormats d shapes ≠ []))
      fun r => r.isSome = true ↔
        (object.isSome = true ∨ array.isSome = true) ∨ changingFormats d shapes ≠ [] := by
  have hnone : (object.isNone && array.isNone && (changingFormats d shapes).isEmpty) = true ↔
      ¬((object.isSome = true ∨ array.isSome = true) ∨ changingFormats d shapes ≠ []) := by
    cases object <;> cases array <;> simp
  unfold unionConversion
  split
  case isTrue h =>
    refine .pure_of_not (iff_of_false (by simp) (hnone.1 h)) ?_
    rintro (⟨f, hf, _⟩ | ⟨_, hyes⟩)
    · exact hnone.1 h (.inr (List.ne_nil_of_mem hf))
    · exact hnone.1 h hyes
  case isFalse h =>
    have hyes := not_not.1 (mt hnone.2 h)
    refine .congr ((unionStatements_notes d shapes object array value).bind_pure fun _ _ => .pure ?_)
      (by simp [hyes])
    exact iff_of_true rfl hyes

theorem convertShapes_notes {shapes : UnionShapes} (hone : shapes.objects.length ≤ 1)
    (h : Tracked inv N C convert (shapes.objects ++ shapes.itemSchemas)) (value : Code) :
    Notes inv (convertShapes convert shapes value)
      (shapes.arrays ≠ [] ∨ ∃ schema ∈ shapes.objects ++ shapes.itemSchemas, N schema)
      fun p => p.1.isSome = true ∨ p.2.isSome = true ↔
        ∃ schema ∈ shapes.objects ++ shapes.itemSchemas, C schema := by
  rw [tracked_append] at h
  simp only [exists_mem_append]
  refine .congr ((convertBranch_notes hone h.1 value).bind fun object hobject =>
    (convertArrays_notes h.2 value).bind_pure fun array harray => .pure ?_) ?_
  · rw [hobject, harray]
  · have hitems : (∃ schema ∈ shapes.itemSchemas, N schema) → shapes.arrays ≠ [] := by
      rintro ⟨schema, hmem, _⟩ harrays
      simp [UnionShapes.itemSchemas, harrays] at hmem
    rw [or_left_comm, or_iff_left_of_imp hitems, or_comm]

theorem convertUnion_notes {branches : List Schema} {shapes : UnionShapes} {o : Outline}
    (hshapes : UnionShapes.ofBranches c.document c.formats branches = .ok shapes)
    (ho : c.unionOutline branches = .ok o)
    (h : Tracked inv N C convert o.inner) (value : Code) :
    Notes inv (c.convertUnion d convert branches value)
      (shapes.arrays ≠ [] ∨ o.imports d ∨
        (shapes.any = false ∧ (o.converts d ∨ ∃ schema ∈ o.inner, C schema)) ∨
        ∃ schema ∈ o.inner, N schema)
      fun r => r.isSome = true ↔ o.converts d ∨ ∃ schema ∈ o.inner, C schema := by
  refine .read fun shapes' hshapes' => ?_
  rw [hshapes] at hshapes'
  cases hshapes'
  rw [unionOutline, hshapes] at ho
  change (if shapes.objects.length > 1 then _ else _) = _ at ho
  split at ho
  case isTrue => cases ho
  case isFalse hone =>
  cases ho
  dsimp only
  rw [if_neg hone, converts_union rfl]
  have himports : Outline.imports { formats := shapes.formats } d ↔
      ∃ f ∈ changingFormats d shapes, f.imports ≠ [] := by
    simp [Outline.imports, mem_changingFormats, and_assoc]
  have conversion (p : Option Code × Option Code) (hp : p.1.isSome = true ∨ p.2.isSome = true ↔
      ∃ schema ∈ shapes.objects ++ shapes.itemSchemas, C schema) :
      Notes inv (unionConversion d shapes p.1 p.2 value)
        ((∃ f ∈ changingFormats d shapes, f.imports ≠ []) ∨ shapes.any = false ∧
          (changingFormats d shapes ≠ [] ∨
            ∃ schema ∈ shapes.objects ++ shapes.itemSchemas, C schema))
        fun r => r.isSome = true ↔ changingFormats d shapes ≠ [] ∨
          ∃ schema ∈ shapes.objects ++ shapes.itemSchemas, C schema := by
    rw [← hp, or_comm (a := changingFormats d shapes ≠ [])]
    exact unionConversion_notes value
  refine .congr ((convertShapes_notes (Nat.le_of_not_gt hone) h value).bind conversion) ?_
  change _ ↔ _ ∨ Outline.imports { formats := shapes.formats } d ∨ _
  rw [himports, or_assoc, or_comm (b := _ ∨ _ ∧ _), or_assoc]

/-! ## Schema objects -/

/-- The schemas of the values inside that the conversion for the keywords of a schema gives names to:
the items of arrays, and the further members of objects. -/
def named (c : Compiler) (depth : Nat) (k : Keywords Schema) : Except CompileError (List Schema) :=
  if !k.allOf.isEmpty then do
    pure (← c.document.mergeAllOf depth k).furtherSchemas
  else if !k.unionBranches.isEmpty then
    match k.discriminator with
    | some _ => pure []
    | none => do pure (← UnionShapes.ofBranches c.document c.formats k.unionBranches).arrays
  else
    match k.type with
    | some .array => pure k.items.toList
    | some .object => pure k.furtherSchemas
    | some _ => pure []
    | none => pure (if k.isObjectLike then k.furtherSchemas else k.items.toList)

/-- The schema is a union that does not take any value; what converts its values throws at those that
belong to no branch. -/
def throws (c : Compiler) (k : Keywords Schema) : Prop :=
  k.allOf = [] ∧ k.unionBranches ≠ [] ∧ (k.discriminator = none →
    ∃ shapes, UnionShapes.ofBranches c.document c.formats k.unionBranches = .ok shapes ∧
      shapes.any = false)

/-- The step converts as its outline says: it takes notes for names, for imports and for the schemas
inside, where `N` says for which of them, and it changes the value if that is changed by itself or one of
the schemas inside is, where `C` says which of them. -/
def Tracks (inv : Probes → Prop) (N C : Schema → Prop) (d : Direction) (o : Outline)
    (names : List Schema) (m : Compile (Option Code)) : Prop :=
  Notes inv m (names ≠ [] ∨ o.imports d ∨ ∃ schema ∈ o.inner, N schema)
    fun r => r.isSome = true ↔ o.converts d ∨ ∃ schema ∈ o.inner, C schema

theorem Tracks.plain : Tracks inv N C d {} [] (pure none) :=
  Notes.pure_of_not (by simp [Outline.converts]) (by simp [Outline.imports])

theorem Tracks.string {k : Keywords Schema} {o : Outline} (ho : c.stringOutline k = .ok o)
    (value : Code) : Tracks inv N C d o [] (c.convertString d k value) := by
  have hinner : o.inner = [] := by
    unfold stringOutline at ho
    split at ho
    · cases ho; rfl
    · split at ho
      · cases ho; rfl
      · obtain ⟨_, _, ho⟩ := Except.bind_eq_ok.1 ho
        cases ho; rfl
  exact (convertString_notes ho value).mono (by simp [hinner]) (by simp [hinner])

theorem Tracks.array {items : Option Schema}
    (h : Tracked inv N C convert items.toList) (value : Code) :
    Tracks inv N C d { inner := items.toList } items.toList (convertArray convert items value) := by
  refine (convertArray_notes h value).mono ?_ (by simp [Outline.converts])
  constructor
  · exact .inl
  · rintro (hnames | ⟨_, hmem, _⟩ | ⟨_, hmem, _⟩)
    · exact hnames
    · cases hmem
    · exact List.ne_nil_of_mem hmem

theorem Tracks.object {k : Keywords Schema}
    (h : Tracked inv N C convert k.memberSchemas) (value : Code) :
    Tracks inv N C d { inner := k.memberSchemas } k.furtherSchemas (convertObject convert k value) :=
  (convertObject_notes h value).mono (by simp [Outline.imports]) (by simp [Outline.converts])

/-- The conversion for the keywords of a schema takes notes for names, for imports and where it
throws, besides those for the schemas inside. -/
theorem convertKeywords_notes {depth : Nat} {k : Keywords Schema} {o : Outline} {names : List Schema}
    (ho : c.outline depth k = .ok o) (hnamed : c.named depth k = .ok names)
    (h : Tracked inv N C convert o.inner) (value : Code) :
    Notes inv (c.convertKeywords d depth convert k value)
      (names ≠ [] ∨ o.imports d ∨ (c.throws k ∧ (o.converts d ∨ ∃ schema ∈ o.inner, C schema)) ∨
        ∃ schema ∈ o.inner, N schema)
      fun r => r.isSome = true ↔ o.converts d ∨ ∃ schema ∈ o.inner, C schema := by
  unfold outline at ho
  unfold named at hnamed
  unfold convertKeywords
  split
  case isTrue hall =>
    rw [if_pos hall] at ho hnamed
    replace hall : ¬c.throws k := fun h => by simp [h.1] at hall
    obtain ⟨merged, hmerged, ho⟩ := Except.bind_eq_ok.1 ho
    cases ho
    rw [hmerged] at hnamed
    cases hnamed
    refine .read fun merged' hmerged' => ?_
    rw [hmerged] at hmerged'
    cases hmerged'
    simp only [hall, false_and, false_or]
    exact Tracks.object h value
  case isFalse hall =>
  rw [if_neg hall] at ho hnamed
  replace hall : k.allOf = [] := by simpa using hall
  split
  case isTrue hunion =>
    rw [if_pos hunion] at ho hnamed
    replace hunion : k.unionBranches ≠ [] := by simpa using hunion
    cases hd : k.discriminator with
    | some discriminator =>
      rw [hd] at ho hnamed
      cases hnamed
      have hthrows : c.throws k := ⟨hall, hunion, by simp [hd]⟩
      obtain ⟨cases, hcases, hinner⟩ := Except.bind_eq_ok.1 ho
      exact (convertDiscriminated_notes ho h value).mono
        (by cases hinner; simp [hthrows, Outline.imports, Outline.converts, or_comm])
        (by cases hinner; simp [Outline.converts])
    | none =>
      rw [hd] at ho hnamed
      obtain ⟨shapes, hshapes, hnamed⟩ := Except.bind_eq_ok.1 hnamed
      cases hnamed
      have hthrows : c.throws k ↔ shapes.any = false := by
        simp [throws, hall, hunion, hd, hshapes]
      rw [hthrows]
      exact convertUnion_notes hshapes ho h value
  case isFalse hunion =>
  rw [if_neg hunion] at ho hnamed
  replace hunion : ¬c.throws k := fun h => by simp [h.2.1] at hunion
  simp only [hunion, false_and, false_or]
  change Tracks inv N C d o names _
  generalize k.type = type at ho hnamed
  rcases type with _ | type
  · dsimp only at ho hnamed ⊢
    split
    case isTrue hobject =>
      rw [if_pos hobject] at ho hnamed
      cases ho
      cases hnamed
      exact .object h value
    case isFalse hobject =>
    rw [if_neg hobject] at ho hnamed
    cases hnamed
    split
    case isTrue hitems =>
      rw [if_pos hitems] at ho
      cases ho
      exact .array h value
    case isFalse hitems =>
    rw [if_neg hitems] at ho
    rw [Option.not_isSome_iff_eq_none.1 hitems, Option.toList_none]
    split
    case isTrue hformat =>
      rw [if_pos hformat] at ho
      exact .string ho value
    case isFalse hformat =>
      rw [if_neg hformat] at ho
      cases ho
      exact .plain
  · cases type
    case string => cases hnamed; exact .string ho value
    case array => cases ho; cases hnamed; exact .array h value
    case object => cases ho; cases hnamed; exact .object h value
    case unknown => cases ho
    all_goals cases ho; cases hnamed; exact .plain

theorem named_deepens (c : Compiler) (depth : Nat) (k : Keywords Schema) :
    Deepens (c.named depth k) (c.named (depth + 1) k) := by
  unfold named
  split
  · exact (c.document.mergeAllOf_deepens depth k).bind fun _ => .refl _
  · exact .refl _

/-- Where there is an outline, the names are known. -/
theorem named_of_outline {depth : Nat} {k : Keywords Schema} {o : Outline}
    (ho : c.outline depth k = .ok o) : ∃ names, c.named depth k = .ok names := by
  unfold outline at ho
  unfold named
  split
  case isTrue hall =>
    rw [if_pos hall] at ho
    obtain ⟨merged, hmerged, _⟩ := Except.bind_eq_ok.1 ho
    exact ⟨_, by rw [hmerged]; rfl⟩
  case isFalse hall =>
  rw [if_neg hall] at ho
  split
  case isTrue hunion =>
    rw [if_pos hunion] at ho
    cases hd : k.discriminator with
    | some discriminator => exact ⟨_, rfl⟩
    | none =>
      rw [hd] at ho
      obtain ⟨shapes, hshapes, _⟩ := Except.bind_eq_ok.1 ho
      exact ⟨_, by rw [hshapes]; rfl⟩
  case isFalse hunion =>
    rcases k.type with _ | type
    · exact ⟨_, rfl⟩
    · cases type <;> exact ⟨_, rfl⟩

end Compiler

/-! ## Schemas -/

/-- The conversion of the schema takes notes: it calls a function of the types that the file imports,
gives names to values inside, applies a format that comes with imports, or throws at values that belong
to no branch of a union. -/
inductive Noted (c : Compiler) (d : Direction) : Schema → Prop
  | ref {r : String} (h : r ∈ needed c d ∅) (imported : c.qualifier ≠ none) : Noted c d (.ref r)
  | named {k : Keywords Schema} {depth : Nat} {schema : Schema} {rest : List Schema}
      (h : c.named depth k = .ok (schema :: rest)) : Noted c d (.inline k)
  | imports {k : Keywords Schema} {o : Outline} (outlined : c.Outlined k o) (h : o.imports d) :
      Noted c d (.inline k)
  | throws {k : Keywords Schema} (h : c.throws k)
      (changed : Changed c d (needed c d ∅) (.inline k)) : Noted c d (.inline k)
  | inner {k : Keywords Schema} {o : Outline} (outlined : c.Outlined k o) {schema : Schema}
      (mem : schema ∈ o.inner) (h : Noted c d schema) : Noted c d (.inline k)

theorem Noted.ref_iff {c : Compiler} {d : Direction} {r : String} :
    Noted c d (.ref r) ↔ r ∈ needed c d ∅ ∧ c.qualifier ≠ none :=
  ⟨fun h => by cases h; exact ⟨‹_›, ‹_›⟩, fun h => .ref h.1 h.2⟩

theorem Noted.inline_iff {c : Compiler} {d : Direction} {depth : Nat} {k : Keywords Schema}
    {o : Outline} {names : List Schema} (ho : c.outline depth k = .ok o)
    (hnamed : c.named depth k = .ok names) :
    Noted c d (.inline k) ↔ names ≠ [] ∨ o.imports d ∨
      (c.throws k ∧ (o.converts d ∨ ∃ schema ∈ o.inner, Changed c d (needed c d ∅) schema)) ∨
        ∃ schema ∈ o.inner, Noted c d schema := by
  have outlined : c.Outlined k o := ⟨depth, ho⟩
  rw [← Changed.inline_iff outlined]
  constructor
  · intro h
    cases h with
    | @named _ depth' schema rest h =>
      left
      rw [Deepens.ok_unique (fun depth => c.named_deepens depth k) hnamed h]
      exact List.cons_ne_nil _ _
    | imports outlined' h => exact .inr (.inl (outlined'.unique outlined ▸ h))
    | throws h changed => exact .inr (.inr (.inl ⟨h, changed⟩))
    | inner outlined' mem h => exact .inr (.inr (.inr ⟨_, outlined'.unique outlined ▸ mem, h⟩))
  · rintro (h | h | ⟨h, changed⟩ | ⟨schema, mem, h⟩)
    · obtain ⟨schema, rest, rfl⟩ := List.exists_cons_of_ne_nil h
      exact .named hnamed
    · exact .imports outlined h
    · exact .throws h changed
    · exact .inner outlined mem h

namespace Compiler

variable {c : Compiler} {d : Direction}

/-- What the questions are like between two conversions. -/
def Settled (c : Compiler) (p : Probes) : Prop := p.Sound c ∧ p.opened = []

theorem qualify_notes {inv : Probes → Prop} (name : String) :
    Notes inv (c.qualify name) (c.qualifier ≠ none) fun _ => True := by
  unfold qualify
  cases c.qualifier with
  | none => exact .pure_of_not trivial (by simp)
  | some qualifier =>
    intro s _ _ hs h
    cases h
    exact ⟨hs, trivial, [.types], rfl, by simp⟩

/-- A question about a reference takes no notes, as what is written to find out does not count. -/
theorem hasConversion_notes (depth : Nat) (r : String) :
    Notes (Settled c) (c.hasConversion d (c.convertTo d depth) r) False
      fun b => b = true ↔ r ∈ needed c d ∅ := by
  intro s b s' hs h
  have answers := hasConversion_answers (fun _ _ _ _ _ => convertTo_answers) h
  refine ⟨⟨(answers.right hs.1).1, answers.opened_eq.trans hs.2⟩, answers.ref_iff hs.1 hs.2, [], ?_,
    by simp⟩
  obtain ⟨_, rfl⟩ := hasConversion_frame h
  rfl

/-- The conversion of a schema takes notes if and only if the schema is noted. -/
theorem convertTo_notes (depth : Nat) (schema : Schema) (value : Code) :
    Notes (Settled c) (c.convertTo d depth schema value) (Noted c d schema)
      fun r => r.isSome = true ↔ Changed c d (needed c d ∅) schema := by
  induction depth generalizing schema value with
  | zero => exact .throw _
  | succ depth ih =>
    cases schema with
    | bool accepts => exact .pure_of_not (by simp [Changed.not_bool]) nofun
    | ref r =>
      rw [Noted.ref_iff, Changed.ref_iff]
      refine .congr (.bind (hasConversion_notes depth r) fun b hb => ?_) (false_or _).to_iff
      cases b with
      | false =>
        have hno : r ∉ needed c d ∅ := mt hb.2 Bool.false_ne_true
        exact .pure_of_not (iff_of_false Bool.false_ne_true hno) fun h => hno h.1
      | true =>
        have hyes : r ∈ needed c d ∅ := hb.1 rfl
        refine .congr (.bind_pure (.read fun name _ => qualify_notes _) fun function _ => .pure ?_)
          (by simp [hyes])
        exact iff_of_true rfl hyes
    | inline k =>
      have keywords : Notes (Settled c) (c.convertKeywords d depth (c.convertTo d depth) k value)
          (Noted c d (.inline k))
          fun r => r.isSome = true ↔ Changed c d (needed c d ∅) (.inline k) := by
        cases ho : c.outline depth k with
        | error e =>
          have follows := c.convertKeywords_follows d depth (c.convertTo d depth) k value
          rw [ho] at follows
          intro s a s' _ h
          cases (follows s).symm.trans h
        | ok o =>
          obtain ⟨names, hnamed⟩ := named_of_outline ho
          rw [Noted.inline_iff ho hnamed, Changed.inline_iff ⟨depth, ho⟩]
          exact convertKeywords_notes ho hnamed (fun schema _ => ih schema) value
      refine keywords.bind_pure fun converted hconverted => .pure ?_
      split
      · simpa using hconverted
      · exact hconverted

variable {schema : Schema} {value : Code} {s s' : Progress}

/-- The conversion of a schema that is not noted leaves every context as it is, that of one that is noted
does not leave an empty one. -/
theorem convert?_context {r : Option Code} (history : c.History s.probes)
    (h : c.convert? d schema value s = .ok (r, s')) :
    (¬Noted c d schema → s'.context = s.context) ∧
      (s.context = {} → s'.context = {} → ¬Noted c d schema) := by
  obtain ⟨_, _, notes, heq, hiff⟩ :=
    convertTo_notes (c.depth schema) schema value s r s' history.sound h
  refine ⟨fun hno => by rw [heq, hiff.2 hno]; rfl, fun hs hs' => hiff.1 ?_⟩
  rw [hs, hs'] at heq
  exact Context.foldl_note_eq_iff.1 heq.symm

/-- The schemas that can be converted in every context, and whose conversion leaves the context as it
is. -/
theorem convert?_unnoticed_iff (value : Code) :
    (∀ s, c.History s.probes →
      ∃ r s', c.convert? d schema value s = .ok (r, s') ∧ s'.context = s.context) ↔
      Convertible c d (safe c d ∅) schema ∧ ¬Noted c d schema := by
  constructor
  · intro h
    obtain ⟨r, s', hr, hcontext⟩ := h {} .start
    exact ⟨(convertTo_ok_iff value .start le_rfl).1 ⟨r, s', hr⟩,
      (convert?_context .start hr).2 rfl hcontext⟩
  · rintro ⟨hx, hno⟩ s history
    obtain ⟨r, s', hr⟩ := (convertTo_ok_iff value history le_rfl).2 hx
    exact ⟨r, s', hr, (convert?_context history hr).1 hno⟩

end Compiler

end OpenApi

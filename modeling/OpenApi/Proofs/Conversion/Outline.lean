import OpenApi.Proofs.Conversion.Walk
import OpenApi.Proofs.Document.Depth
import OpenApi.Proofs.Schema.Parts

/-!
What the conversion of a schema object amounts to, without its code: the schemas inside that are
converted, in order, and the formats that the value itself may have (`Compiler.outline`). Nothing
else decides whether there is anything to convert and whether the conversion fails
(`convertKeywords_outline`), so that all that is said below about conversions is said about outlines.
-/

namespace OpenApi

/-- The outline of a conversion. -/
structure Outline where
  /-- the schemas that values inside are converted by, in order -/
  inner : List Schema := []
  /-- the formats that the value itself may have -/
  formats : List Format := []
  /-- the formats are told apart by tests -/
  isUnion : Bool := false

namespace Outline

/-- One of the formats changes the value. -/
def converts (o : Outline) (d : Direction) : Prop :=
  ∃ f ∈ o.formats, (f.template d).isIdentity = false

/-- No test is missing: typed values of a union are told apart by the tests of its formats. -/
def isTestable (o : Outline) (d : Direction) : Prop :=
  o.isUnion = true → d = .serialize →
    ∀ f ∈ o.formats, (f.template d).isIdentity = false → f.instanceTest.isSome = true

end Outline

/-- The schema of the items of all branches for arrays. -/
def UnionShapes.itemSchemas (shapes : UnionShapes) : List Schema :=
  match shapes.arrays with
  | [] => []
  | [items] => [items]
  | items => [.inline { oneOf := items }]

namespace Compiler

/-- The outline of the conversion of strings. -/
def stringOutline (c : Compiler) (k : Keywords Schema) : Except CompileError Outline :=
  match k.format with
  | none => pure {}
  | some name =>
    if k.isLiteral then pure {}
    else do pure { formats := [← c.formats.require name k] }

/-- The outline of the conversion of a union with discriminator. -/
def discriminatedOutline (branches : List Schema) (discriminator : Discriminator) :
    Except CompileError Outline := do
  let cases ← discriminatorCases discriminator.mapping branches
  pure { inner := cases.map fun case => .ref case.2 }

/-- The outline of the conversion of a union without discriminator. -/
def unionOutline (c : Compiler) (branches : List Schema) : Except CompileError Outline := do
  let shapes ← UnionShapes.ofBranches c.document c.formats branches
  if shapes.objects.length > 1 then throw (.notImplemented .objectBranches)
  pure { inner := shapes.objects ++ shapes.itemSchemas, formats := shapes.formats, isUnion := true }

/-- The outline of the conversion for the keywords of a schema. -/
def outline (c : Compiler) (depth : Nat) (k : Keywords Schema) : Except CompileError Outline :=
  if !k.allOf.isEmpty then do
    pure { inner := (← c.document.mergeAllOf depth k).memberSchemas }
  else if !k.unionBranches.isEmpty then
    match k.discriminator with
    | some discriminator => discriminatedOutline k.unionBranches discriminator
    | none => c.unionOutline k.unionBranches
  else
    match k.type with
    | some .string => c.stringOutline k
    | some .array => pure { inner := k.items.toList }
    | some .object => pure { inner := k.memberSchemas }
    | some (.unknown name) => throw (.unknownType name .value)
    | some _ => pure {}
    | none =>
      if k.isObjectLike then pure { inner := k.memberSchemas }
      else if k.items.isSome then pure { inner := k.items.toList }
      else if k.format.isSome then c.stringOutline k
      else pure {}

theorem outline_deepens (c : Compiler) (depth : Nat) (k : Keywords Schema) :
    Deepens (c.outline depth k) (c.outline (depth + 1) k) := by
  unfold outline
  split
  · exact (c.document.mergeAllOf_deepens depth k).bind fun _ => .refl _
  · exact .refl _

theorem outline_of_le {c : Compiler} {k : Keywords Schema} {o : Outline} {m n : Nat}
    (h : c.outline m k = .ok o) (hle : m ≤ n) : c.outline n k = .ok o := by
  have := Deepens.of_le (fun depth => c.outline_deepens depth k) hle
  rw [h] at this
  exact this.ok

/-- The schema object has the outline `o`, if it is followed deep enough. -/
def Outlined (c : Compiler) (k : Keywords Schema) (o : Outline) : Prop :=
  ∃ depth, c.outline depth k = .ok o

theorem Outlined.unique {c : Compiler} {k : Keywords Schema} {o o' : Outline}
    (h : c.Outlined k o) (h' : c.Outlined k o') : o = o' := by
  obtain ⟨m, hm⟩ := h
  obtain ⟨n, hn⟩ := h'
  exact Deepens.ok_unique (fun depth => c.outline_deepens depth k) hm hn

/-- At any depth there is the outline, or not enough depth. -/
theorem Outlined.outline_eq {c : Compiler} {k : Keywords Schema} {o : Outline}
    (h : c.Outlined k o) (depth : Nat) :
    c.outline depth k = .error .tooDeep ∨ c.outline depth k = .ok o := by
  obtain ⟨n, hn⟩ := h
  rcases Nat.le_total depth n with hle | hle
  · refine (Deepens.of_le (fun depth => c.outline_deepens depth k) hle).imp_right fun heq => ?_
    rw [← heq, hn]
  · exact .inr (outline_of_le hn hle)

/-! ## Strings, arrays and objects -/

section

variable {convert : Convert}

theorem convertFormat_runs (d : Direction) (format : Format) (value : Code) :
    Runs convert (convertFormat d format value) []
      fun _ r => r.isSome = !(format.template d).isIdentity := by
  unfold convertFormat
  split
  case isTrue h => exact .pure (by simp [h])
  case isFalse h =>
    refine .bind_local (.use _) fun _ _ => .pure ?_
    simpa using h

theorem convertArray_runs (items : Option Schema) (value : Code) :
    Runs convert (convertArray convert items value) items.toList
      fun answers r => r.isSome = true ↔ true ∈ answers := by
  unfold convertArray
  cases items with
  | none => exact .pure (by simp)
  | some items =>
    refine .bind_local (.fresh _) fun item _ => ?_
    refine .bind_last (.convert_one items (Code.site item)) fun answers r h => ?_
    subst h
    cases r with
    | none => exact .pure (by simp)
    | some converted => exact .pure (by simp)

theorem convertMembers_runs (required : List String) (base : Code)
    (properties : List (String × Schema)) :
    Runs convert (convertMembers convert required base properties) (properties.map (·.2))
      fun answers members => members ≠ [] ↔ true ∈ answers := by
  induction properties with
  | nil => exact .pure (by simp)
  | cons property rest ih =>
    obtain ⟨name, schema⟩ := property
    show Runs convert _ ([schema] ++ rest.map (·.2)) _
    refine .bind (.convert_one schema _) fun answers r h => ?_
    subst h
    refine .bind_last ih fun answers' others hothers => ?_
    cases r with
    | none => exact .pure (by simpa using hothers)
    | some converted =>
      dsimp only
      split <;> exact .pure (by simp)

theorem convertFurther_runs (k : Keywords Schema) (base : Code) :
    Runs convert (convertFurther convert k base) k.furtherSchemas
      fun answers r => r.isSome = true ↔ true ∈ answers := by
  unfold convertFurther Keywords.furtherSchemas
  rcases k.additionalProperties with _ | _ | schema
  case none => exact .pure (by simp)
  case some.any => exact .pure (by simp)
  case some.schema =>
    refine .bind_local (.fresh _) fun key _ => .bind_local (.fresh _) fun entry _ => ?_
    refine .bind_last (.convert_one schema (Code.site entry)) fun answers r h => ?_
    subst h
    cases r with
    | none => exact .pure (by simp)
    | some converted => exact .pure (by simp)

theorem convertObject_runs (k : Keywords Schema) (value : Code) :
    Runs convert (convertObject convert k value) k.memberSchemas
      fun answers r => r.isSome = true ↔ true ∈ answers := by
  unfold convertObject Keywords.memberSchemas
  refine .bind (convertMembers_runs k.required _ k.properties) fun answers members hm => ?_
  refine .bind_last (convertFurther_runs k _) fun answers' further hf => ?_
  split
  case isTrue h =>
    obtain ⟨hmembers, hfurther⟩ : members = [] ∧ further = none := by simpa using h
    subst hmembers hfurther
    have h1 : true ∉ answers := fun h => hm.2 h rfl
    have h2 : true ∉ answers' := fun h => by simpa using hf.2 h
    exact .pure (by simp [h1, h2])
  case isFalse h =>
    refine .pure ?_
    have : members ≠ [] ∨ further.isSome = true := by
      cases members <;> cases further <;> simp_all
    simpa [← hm, ← hf] using this

/-! ## Unions -/

theorem mapCases_runs (cases : List (String × String)) (value : Code) :
    Runs convert
      (cases.mapM fun (tag, reference) => return (tag, ← convert (.ref reference) value))
      (cases.map fun case => .ref case.2)
      fun answers converted =>
        converted.all (fun case : String × Option Code => case.2.isNone) = false ↔
          true ∈ answers := by
  induction cases with
  | nil => exact .pure (by simp)
  | cons case rest ih =>
    obtain ⟨tag, reference⟩ := case
    rw [List.mapM_cons]
    show Runs convert _ ([Schema.ref reference] ++ rest.map fun case => Schema.ref case.2) _
    have one : Runs convert
        (do return (tag, ← convert (.ref reference) value) : Compile (String × Option Code))
        [.ref reference] fun answers case => answers = [case.2.isSome] :=
      .bind_last (.convert_one (.ref reference) value) fun answers r h => .pure h
    refine .bind one fun answers case hone => ?_
    subst hone
    refine .bind_last ih fun answers' others hothers => .pure ?_
    rcases case with ⟨tag, _ | converted⟩
    · simpa using hothers
    · simp

theorem convertDiscriminated_runs {branches : List Schema} {discriminator : Discriminator}
    {cases : List (String × String)}
    (h : discriminatorCases discriminator.mapping branches = .ok cases) (value : Code) :
    Runs convert (convertDiscriminated convert branches discriminator value)
      (cases.map fun case => .ref case.2)
      fun answers r => r.isSome = true ↔ true ∈ answers := by
  unfold convertDiscriminated
  rw [h]
  refine .bind_local (.lift cases) fun read hread => ?_
  rw [hread]
  refine .bind_last (mapCases_runs cases value) fun answers converted hc => ?_
  cases hall : converted.all (·.2.isNone) with
  | true => exact .pure (by simpa [hall] using hc)
  | false =>
    refine .bind_local (.throwMalformed _ _ _) fun _ _ => .pure ?_
    simpa [hall] using hc

theorem convertArrays_runs (shapes : UnionShapes) (value : Code) :
    Runs convert (convertArrays convert shapes.arrays value) shapes.itemSchemas
      fun answers r => r.isSome = true ↔ true ∈ answers := by
  unfold convertArrays UnionShapes.itemSchemas
  rcases shapes.arrays with _ | ⟨items, _ | ⟨other, rest⟩⟩
  · exact .pure (by simp)
  · exact convertArray_runs (some items) value
  · exact convertArray_runs (some (.inline { oneOf := items :: other :: rest })) value

theorem convertBranch_runs {objects : List Schema} (h : objects.length ≤ 1) (value : Code) :
    Runs convert (convertBranch convert objects value) objects
      fun answers r => r.isSome = true ↔ true ∈ answers := by
  rcases objects with _ | ⟨branch, _ | ⟨other, rest⟩⟩
  · exact .pure (by simp)
  · refine .mono (.convert_one branch value) ?_
    rintro answers r rfl
    simp
  · simp at h

theorem serializeFormats_runs (value : Code) {formats : List Format}
    (h : ∀ f ∈ formats, f.instanceTest.isSome = true) :
    Runs convert (serializeFormats value formats) [] fun _ _ => True := by
  induction formats with
  | nil => exact .pure trivial
  | cons format rest ih =>
    obtain ⟨test, htest⟩ := Option.isSome_iff_exists.1 (h format (by simp))
    simp only [serializeFormats, Format.instanceCode?, htest, Option.map_some]
    refine .bind_local (convertFormat_runs _ format value) fun converted _ => ?_
    exact .bind_local (ih fun f hf => h f (by simp [hf])) fun statements _ => .pure trivial

theorem convertFormat_ok (d : Direction) (format : Format) (value : Code) (s : Progress) :
    ∃ r s', convertFormat d format value s = .ok (r, s') := by
  unfold convertFormat
  split
  · exact ⟨_, _, rfl⟩
  · exact ⟨_, _, rfl⟩

theorem serializeFormats_error (value : Code) {formats : List Format}
    (h : ∃ f ∈ formats, f.instanceTest.isSome = false) (s : Progress) :
    ∃ name, serializeFormats value formats s = .error (.notImplemented (.noInstanceTest name)) := by
  induction formats generalizing s with
  | nil => simp at h
  | cons format rest ih =>
    cases htest : format.instanceTest with
    | none => exact ⟨format.name, by simp [serializeFormats, Format.instanceCode?, htest]⟩
    | some test =>
      have hrest : ∃ f ∈ rest, f.instanceTest.isSome = false := by simpa [htest] using h
      obtain ⟨r, s', hr⟩ := convertFormat_ok .serialize format value s
      obtain ⟨name, hname⟩ := ih hrest s'
      simp only [serializeFormats, Format.instanceCode?, htest, Option.map_some]
      exact ⟨name, by rw [Compile.bind_apply_of_ok hr, Compile.bind_apply_of_error hname]⟩

theorem parseFormats_runs (value : Code) (formats : List Format) :
    Runs convert (parseFormats value formats) [] fun _ _ => True := by
  induction formats with
  | nil => exact .pure trivial
  | cons format rest ih =>
    unfold parseFormats at ih ⊢
    rw [List.mapM_cons]
    have one : Runs convert
        (do
          let converted ← convertFormat .parse format value
          return Code.cat ["try ", (converted.getD value).returned.braced, " catch \x7b\x7d"] :
          Compile Code) [] fun _ _ => True :=
      .bind_local (convertFormat_runs _ format value) fun _ _ => .pure trivial
    exact .bind_local one fun _ _ => .bind_local ih fun _ _ => .pure trivial

theorem mem_changingFormats {d : Direction} {shapes : UnionShapes} {f : Format} :
    f ∈ changingFormats d shapes ↔ f ∈ shapes.formats ∧ (f.template d).isIdentity = false := by
  simp [changingFormats]

theorem unionStrings_runs (d : Direction) (shapes : UnionShapes) (value : Code) :
    Runs convert (unionStrings d shapes value) [] fun _ _ => True := by
  unfold unionStrings
  cases d with
  | parse => exact .bind_local (parseFormats_runs value _) fun _ _ => .pure trivial
  | serialize => exact .pure trivial

theorem unionInstances_runs {d : Direction} {shapes : UnionShapes}
    (h : d = .serialize → ∀ f ∈ changingFormats d shapes, f.instanceTest.isSome = true)
    (value : Code) : Runs convert (unionInstances d shapes value) [] fun _ _ => True := by
  cases d with
  | parse => exact .pure trivial
  | serialize => exact serializeFormats_runs value (h rfl)

theorem unionOthers_runs (shapes : UnionShapes) (value : Code) :
    Runs convert (unionOthers shapes value) [] fun _ _ => True := by
  unfold unionOthers
  split
  · exact .pure trivial
  · exact .bind_local (.throwMalformed _ _ _) fun _ _ => .pure trivial

/-- The statements for the branches of a union are written if no test is missing. -/
theorem unionStatements_runs {d : Direction} {shapes : UnionShapes}
    (h : d = .serialize → ∀ f ∈ changingFormats d shapes, f.instanceTest.isSome = true)
    (object array : Option Code) (value : Code) :
    Runs convert (unionStatements d shapes object array value) [] fun _ _ => True := by
  unfold unionStatements
  refine .bind_local (unionInstances_runs h value) fun _ _ => ?_
  refine .bind_local (unionStrings_runs d shapes value) fun _ _ => ?_
  exact .bind_local (unionOthers_runs shapes value) fun _ _ => .pure trivial

theorem unionStatements_error {shapes : UnionShapes}
    (h : ∃ f ∈ changingFormats .serialize shapes, f.instanceTest.isSome = false)
    (object array : Option Code) (value : Code) (s : Progress) :
    ∃ name, unionStatements .serialize shapes object array value s =
      .error (.notImplemented (.noInstanceTest name)) := by
  obtain ⟨name, hname⟩ := serializeFormats_error value h s
  exact ⟨name, Compile.bind_apply_of_error hname⟩

end

end Compiler

/-! ## Schema objects -/

/-- What comes of a conversion whose schemas inside have had their answers: it fails where a test is
missing, and only there. -/
def Outline.Result (o : Outline) (d : Direction) (answers : List Bool) (s : Progress)
    (x : Except CompileError (Option Code × Progress)) : Prop :=
  o.isTestable d ∧ (∃ r ctx, x = .ok (r, { s with context := ctx }) ∧
      (r.isSome = true ↔ o.converts d ∨ true ∈ answers)) ∨
    ¬o.isTestable d ∧ ∃ name, x = .error (.notImplemented (.noInstanceTest name))

/-- The step writes the conversion that has the given outline: it converts the schemas inside and
fails where one of these conversions fails. -/
def Outline.Describes (o : Outline) (convert : Convert) (d : Direction)
    (m : Compile (Option Code)) : Prop :=
  ∀ s, (∃ e, Walk convert o.inner s (.error e) ∧ m s = .error e) ∨
    ∃ answers s', Walk convert o.inner s (.ok (answers, s')) ∧ o.Result d answers s' (m s)

theorem Outline.Describes.of_bind {α : Type} {convert : Convert} {d : Direction} {o : Outline}
    {m : Compile α} {f : α → Compile (Option Code)} {post : List Bool → α → Prop}
    (hm : Runs convert m o.inner post)
    (hf : ∀ answers a, post answers a → ∀ s, o.Result d answers s (f a s)) :
    o.Describes convert d (m >>= f) := by
  intro s
  rcases hm s with ⟨e, hw, he⟩ | ⟨answers, s', a, ctx, hw, ha, hpost⟩
  · exact .inl ⟨e, hw, Compile.bind_apply_of_error he⟩
  · refine .inr ⟨answers, s', hw, ?_⟩
    rw [Compile.bind_apply_of_ok ha]
    exact hf answers a hpost { s' with context := ctx }

/-- The step follows its outline, or fails in the same way as that. -/
def Follows (convert : Convert) (d : Direction) (m : Compile (Option Code)) :
    Except CompileError Outline → Prop
  | .ok o => o.Describes convert d m
  | .error e => ∀ s, m s = .error e

namespace Follows

variable {α : Type} {convert : Convert} {d : Direction} {m : Compile (Option Code)}

theorem error (e : CompileError) : Follows convert d (throw e) (.error e) := fun _ => rfl

/-- A step that is no union and runs along the schemas of its outline. -/
theorem of_runs {o : Outline} {post : List Bool → Option Code → Prop} (h : o.isUnion = false)
    (hm : Runs convert m o.inner post)
    (hp : ∀ answers r, post answers r → (r.isSome = true ↔ o.converts d ∨ true ∈ answers)) :
    Follows convert d m (.ok o) := by
  intro s
  rcases hm s with he | ⟨answers, s', r, ctx, hw, hr, hpost⟩
  · exact .inl he
  · have ht : o.isTestable d := by simp [Outline.isTestable, h]
    exact .inr ⟨answers, s', hw, .inl ⟨ht, r, ctx, hr, hp answers r hpost⟩⟩

/-- A step that is no union and converts nothing by itself. -/
theorem of_inner {inner : List Schema}
    (hm : Runs convert m inner fun answers r => r.isSome = true ↔ true ∈ answers) :
    Follows convert d m (.ok { inner }) :=
  of_runs rfl hm fun answers r h => by simpa [Outline.converts] using h

/-- Reading a value before both the step and its outline. -/
theorem bind {x : Except CompileError α} {f : α → Compile (Option Code)}
    {g : α → Except CompileError Outline} (h : ∀ a, x = .ok a → Follows convert d (f a) (g a)) :
    Follows convert d (liftM x >>= f) (x >>= g) := by
  cases x with
  | error e => exact fun _ => rfl
  | ok a => exact h a rfl

end Follows

namespace Compiler

variable {convert : Convert} {d : Direction}

theorem convertString_follows (c : Compiler) (k : Keywords Schema) (value : Code) :
    Follows convert d (c.convertString d k value) (c.stringOutline k) := by
  unfold convertString stringOutline
  cases k.format with
  | none => exact .of_inner (.pure (by simp))
  | some name =>
    dsimp only
    split
    · exact .of_inner (.pure (by simp))
    · refine .bind fun format _ => .of_runs rfl (convertFormat_runs d format value).no_answers ?_
      rintro _ r ⟨rfl, h⟩
      simp [Outline.converts, h]

theorem convertDiscriminated_follows (branches : List Schema) (discriminator : Discriminator)
    (value : Code) :
    Follows convert d (convertDiscriminated convert branches discriminator value)
      (discriminatedOutline branches discriminator) := by
  cases h : discriminatorCases discriminator.mapping branches with
  | error e =>
    rw [discriminatedOutline, h]
    intro s
    rw [convertDiscriminated, h]
    rfl
  | ok cases =>
    rw [discriminatedOutline, h]
    exact .of_inner (convertDiscriminated_runs h value)

theorem convertShapes_runs {shapes : UnionShapes} (h : shapes.objects.length ≤ 1) (value : Code) :
    Runs convert (convertShapes convert shapes value) (shapes.objects ++ shapes.itemSchemas)
      fun answers p => p.1.isSome = true ∨ p.2.isSome = true ↔ true ∈ answers := by
  refine .bind (convertBranch_runs h value) fun answers object ho => ?_
  refine .bind_last (convertArrays_runs shapes value) fun answers' array ha => .pure ?_
  simp [ho, ha]

theorem converts_union {o : Outline} {shapes : UnionShapes} (ho : o.formats = shapes.formats) :
    o.converts d ↔ changingFormats d shapes ≠ [] := by
  rw [ne_eq, List.eq_nil_iff_forall_not_mem]
  simp [Outline.converts, ho, mem_changingFormats]

theorem isTestable_union {o : Outline} {shapes : UnionShapes} (ho : o.formats = shapes.formats)
    (hu : o.isUnion = true) :
    o.isTestable d ↔
      (d = .serialize → ∀ f ∈ changingFormats d shapes, f.instanceTest.isSome = true) := by
  simp [Outline.isTestable, ho, hu, mem_changingFormats]

/-- A union is converted if one of its branches is, or a format that changes the value. Then a test
may be missing. -/
theorem unionConversion_result {shapes : UnionShapes} {o : Outline}
    (ho : o.formats = shapes.formats) (hu : o.isUnion = true) {answers : List Bool}
    {object array : Option Code}
    (h : object.isSome = true ∨ array.isSome = true ↔ true ∈ answers) (value : Code)
    (s : Progress) : o.Result d answers s (unionConversion d shapes object array value s) := by
  rw [Outline.Result, isTestable_union ho hu, converts_union ho, ← h]
  unfold unionConversion
  split
  case isTrue hnone =>
    obtain ⟨⟨hobject, harray⟩, hformats⟩ : (object = none ∧ array = none) ∧
        changingFormats d shapes = [] := by simpa using hnone
    exact .inl ⟨by simp [hformats], none, s.context, rfl, by simp [hobject, harray, hformats]⟩
  case isFalse hsome =>
    by_cases ht : d = .serialize → ∀ f ∈ changingFormats d shapes, f.instanceTest.isSome = true
    · have hruns : Runs (fun _ _ => pure none) _ _ _ :=
        unionStatements_runs ht object array value
      rcases hruns s with ⟨e, hw, _⟩ | ⟨answers', s', statements, ctx, hw, hs, _⟩
      · cases hw
      · obtain ⟨ctx', hw⟩ := hw.eq_of_nil
        cases hw
        refine .inl ⟨ht, _, ctx, Compile.bind_apply_of_ok hs, ?_⟩
        cases object <;> cases array <;> simp_all
    · obtain ⟨rfl, f, hf, hnone⟩ : d = .serialize ∧
          ∃ f ∈ changingFormats d shapes, f.instanceTest.isSome = false := by simpa using ht
      obtain ⟨name, hname⟩ := unionStatements_error ⟨f, hf, hnone⟩ object array value s
      exact .inr ⟨ht, name, Compile.bind_apply_of_error hname⟩

theorem convertUnion_follows (c : Compiler) (branches : List Schema) (value : Code) :
    Follows convert d (c.convertUnion d convert branches value) (c.unionOutline branches) := by
  unfold convertUnion unionOutline
  refine .bind fun shapes _ => ?_
  split
  case isTrue => exact .error _
  case isFalse h =>
    refine Outline.Describes.of_bind (convertShapes_runs (Nat.le_of_not_gt h) value) ?_
    intro answers p hp s
    exact unionConversion_result rfl rfl hp value s

theorem convertKeywords_follows (c : Compiler) (d : Direction) (depth : Nat) (convert : Convert)
    (k : Keywords Schema) (value : Code) :
    Follows convert d (c.convertKeywords d depth convert k value) (c.outline depth k) := by
  unfold convertKeywords outline
  split
  case isTrue => exact .bind fun merged _ => .of_inner (convertObject_runs merged value)
  case isFalse =>
    split
    case isTrue =>
      cases k.discriminator with
      | none => exact c.convertUnion_follows k.unionBranches value
      | some discriminator => exact convertDiscriminated_follows k.unionBranches discriminator value
    case isFalse =>
      have plain : Follows convert d (pure none) (pure {}) := .of_inner (.pure (by simp))
      have string : Follows convert d (c.convertString d k value) (c.stringOutline k) :=
        c.convertString_follows k value
      have array : Follows convert d (convertArray convert k.items value)
          (pure { inner := k.items.toList }) := .of_inner (convertArray_runs k.items value)
      have object : Follows convert d (convertObject convert k value)
          (pure { inner := k.memberSchemas }) := .of_inner (convertObject_runs k value)
      rcases k.type with _ | type
      · dsimp only
        split
        · exact object
        split
        · exact array
        split
        · exact string
        · exact plain
      · cases type
        case string => exact string
        case array => exact array
        case object => exact object
        case unknown name => exact .error _
        all_goals exact plain

/-- A conversion of a schema object whose schemas inside are converted without a failure. -/
theorem convertKeywords_ok {c : Compiler} {depth : Nat} {k : Keywords Schema} {o : Outline}
    (ho : c.outline depth k = .ok o) (ht : o.isTestable d)
    (hinner : ∀ schema ∈ o.inner, ∀ value s, ∃ r s', convert schema value s = .ok (r, s'))
    (value : Code) (s : Progress) :
    ∃ r s', c.convertKeywords d depth convert k value s = .ok (r, s') := by
  have follows := c.convertKeywords_follows d depth convert k value
  rw [ho] at follows
  rcases follows s with ⟨e, hw, _⟩ | ⟨answers, s₁, _, ⟨_, r, ctx, hr, _⟩ | ⟨hno, _⟩⟩
  · obtain ⟨before, schema, after, _, s', value, ctx, heq, _, he⟩ := hw.split_error
    obtain ⟨r, s', hr⟩ := hinner schema (by simp [heq]) value { s' with context := ctx }
    rw [he] at hr
    cases hr
  · exact ⟨r, _, hr⟩
  · exact absurd ht hno

/-- A conversion of a schema object that does not fail. -/
theorem convertKeywords_eq_ok {c : Compiler} {depth : Nat} {k : Keywords Schema} {value : Code}
    {r : Option Code} {s s' : Progress}
    (h : c.convertKeywords d depth convert k value s = .ok (r, s')) :
    ∃ o answers s₁ ctx, c.Outlined k o ∧ o.isTestable d ∧
      Walk convert o.inner s (.ok (answers, s₁)) ∧ s' = { s₁ with context := ctx } ∧
      (r.isSome = true ↔ o.converts d ∨ true ∈ answers) := by
  have follows := c.convertKeywords_follows d depth convert k value
  cases ho : c.outline depth k with
  | error e =>
    rw [ho] at follows
    rw [follows s] at h
    cases h
  | ok o =>
    rw [ho] at follows
    rcases follows s with ⟨e, _, he⟩ | ⟨answers, s₁, hw, ⟨ht, r', ctx, hr, hiff⟩ | ⟨_, name, he⟩⟩
    · rw [he] at h; cases h
    · rw [hr] at h
      cases h
      exact ⟨o, answers, s₁, ctx, ⟨depth, ho⟩, ht, hw, rfl, hiff⟩
    · rw [he] at h; cases h

end Compiler

end OpenApi

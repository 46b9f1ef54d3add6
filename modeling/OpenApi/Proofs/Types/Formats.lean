import OpenApi.Proofs.Code.Spans
import OpenApi.Proofs.Document.Depth
import OpenApi.Proofs.Files.Results
import OpenApi.Proofs.Json.Values
import OpenApi.Proofs.Types.Parts

/-!
The formats whose types a type expression is put together from. `Schema.HasFormat` says which ones
these are from the schema alone; in the type they are the origins of the text that does not come from
the compiler (`schemaType_hasSpan`).
-/

namespace OpenApi

/-! ## Registries -/

/-- Every format stands under its own name, and has the property. -/
def Registry.All (P : Format → Prop) (formats : Registry) : Prop :=
  ∀ name format, formats.get? name = some format → format.name = name ∧ P format

/-- Every format stands under its own name, and has a type. -/
def Registry.IsProper (formats : Registry) : Prop :=
  ∀ name format, formats.get? name = some format → format.name = name ∧ format.type ≠ ""

/-- The template comes from a body that was split. -/
def Template.IsMade (t : Template) : Prop := ∃ parameter body, t = .ofBody parameter body

/-- All templates of the format come from bodies. -/
structure Format.IsMade (f : Format) : Prop where
  convert : ∀ d, (f.template d).IsMade
  test : ∀ t ∈ f.instanceTest, t.IsMade

theorem Template.isMade_of_new {parameter body : String} {t : Template}
    (h : Template.new parameter body = .ok t) : t.IsMade := by
  unfold Template.new at h
  split at h
  · cases h
  split at h
  · cases h
  · cases h
    exact ⟨_, _, rfl⟩

namespace Registry

variable {P : Format → Prop}

/-- The built-in formats stand under their names. -/
theorem all_builtin {runtimeModule : String} (h : ∀ f ∈ Format.builtin runtimeModule, P f) :
    All P (builtin runtimeModule) := by
  intro name format hformat
  obtain ⟨f, hf, heq⟩ := List.mem_map.1 (Members.mem_of_get? hformat)
  cases heq
  exact ⟨rfl, h format hf⟩

/-- A format that a configuration declares has the name that it is declared under. -/
theorem ofDeclaration_eq_ok {name : String} {d : FormatDeclaration} {format : Format}
    (h : Format.ofDeclaration name d = .ok format) :
    format.name = name ∧ format.type ≠ "" ∧ format.IsMade := by
  have htype : d.type = "" → (Text.trimChars d.type.toList).isEmpty = true := by
    intro h
    rw [h]
    rfl
  have hmade {text : TemplateText} {t : Template}
      (h : (Template.new text.parameter text.body).mapError (ConfigError.template name) = .ok t) :
      t.IsMade := by
    cases htext : Template.new text.parameter text.body with
    | error e =>
      rw [htext] at h
      cases h
    | ok t =>
      rw [htext] at h
      cases h
      exact Template.isMade_of_new htext
  unfold Format.ofDeclaration at h
  dsimp only at h
  split at h
  case isTrue => cases h
  case isFalse hne =>
    obtain ⟨parse, hparse, h⟩ := Except.bind_eq_ok.1 h
    obtain ⟨serialize, hserialize, h⟩ := Except.bind_eq_ok.1 h
    obtain ⟨test, htest, h⟩ := Except.bind_eq_ok.1 h
    cases h
    refine ⟨rfl, fun h => hne (htype h), fun d => ?_, fun t ht => ?_⟩
    · cases d with
      | parse => exact hmade hparse
      | serialize => exact hmade hserialize
    · cases hdeclared : d.instanceTest with
      | none =>
        rw [hdeclared] at htest
        cases htest
        cases ht
      | some text =>
        rw [hdeclared] at htest
        obtain ⟨t', ht', htest⟩ := Except.bind_eq_ok.1 htest
        cases htest
        cases ht
        exact hmade ht'

/-- What holds of the built-in formats and of all that can be declared holds of all formats of a
configuration, which stand under their names. -/
theorem all_ofConfig {config : Config} {formats : Registry}
    (hbuiltin : ∀ f ∈ Format.builtin config.runtimeModule, P f)
    (hdeclared : ∀ {name d f}, Format.ofDeclaration name d = .ok f → P f)
    (h : ofConfig config = .ok formats) : All P formats := by
  refine Except.foldlM_preserves (fun known ⟨name, d⟩ _ formats hknown h => ?_)
    (all_builtin hbuiltin) h
  obtain ⟨format, hformat, h⟩ := Except.bind_eq_ok.1 h
  cases h
  intro other found hfound
  by_cases hname : other = name
  · subst hname
    rw [Members.get?_put_self] at hfound
    cases hfound
    exact ⟨(ofDeclaration_eq_ok hformat).1, hdeclared hformat⟩
  · rw [Members.get?_put_of_ne _ _ hname] at hfound
    exact hknown other found hfound

theorem ofConfig_isProper {config : Config} {formats : Registry}
    (h : ofConfig config = .ok formats) : formats.IsProper :=
  all_ofConfig (by simp [Format.builtin]) (fun hd => (ofDeclaration_eq_ok hd).2.1) h

/-- The formats of a configuration come from bodies. -/
theorem ofConfig_isMade {config : Config} {formats : Registry}
    (h : ofConfig config = .ok formats) : formats.All Format.IsMade := by
  refine all_ofConfig (fun f hf => ?_) (fun hd => (ofDeclaration_eq_ok hd).2.2) h
  simp only [Format.builtin, List.mem_cons, List.not_mem_nil, or_false] at hf
  rcases hf with rfl | rfl | rfl | rfl | rfl | rfl | rfl
  all_goals
    refine ⟨fun d => ?_, fun t ht => ?_⟩
    · cases d <;> exact ⟨_, _, rfl⟩
    · cases ht <;> exact ⟨_, _, rfl⟩

theorem require_eq_ok {formats : Registry} {name : String} {k : Keywords Schema} {format : Format}
    (h : formats.require name k = .ok format) : formats.get? name = some format := by
  unfold require at h
  split at h
  case h_1 heq => cases h; exact heq
  case h_2 => cases h

end Registry

/-! ## Formats of schemas -/

namespace Keywords

variable {σ : Type} (k : Keywords σ)

/-- An array by its type, or without a type by what it says about items. -/
def isArrayLike : Bool :=
  match k.type with
  | some .array => true
  | none => k.items.isSome
  | some _ => false

/-- The schemas inside whose types the type of the schema object is put together from. -/
def typeParts : List σ :=
  if !k.allOf.isEmpty then k.allOf ++ k.memberSchemas
  else if !k.unionBranches.isEmpty then k.unionBranches
  else if k.isLiteral then []
  else match k.type with
    | some .array => k.items.toList
    | some .object => k.memberSchemas
    | some _ => []
    | none => if k.isObjectLike then k.memberSchemas else k.items.toList

/-- The format that the values of the schema object have themselves. -/
def typeFormat? : Option String :=
  if k.isComposite || k.isLiteral then none
  else match k.type with
    | some .string => k.format
    | some _ => none
    | none => if k.isObjectLike || k.items.isSome then none else k.format

variable {k}

theorem memberSchemas_eq_nil (h : k.properties = [] ∧ k.additionalProperties = none) :
    k.memberSchemas = [] := by
  simp [memberSchemas, furtherSchemas, h.1, h.2]

end Keywords

/-- The values of the schema have the format somewhere, without looking behind references. -/
inductive Schema.HasFormat (name : String) : Schema → Prop
  | own {k : Keywords Schema} (h : k.typeFormat? = some name) : HasFormat name (.inline k)
  | part {k : Keywords Schema} {x : Schema} (mem : x ∈ k.typeParts) (h : HasFormat name x) :
      HasFormat name (.inline k)

namespace Schema.HasFormat

variable {name : String} {k : Keywords Schema}

theorem not_ref {target : String} : ¬HasFormat name (.ref target) := nofun

theorem not_bool {accepts : Bool} : ¬HasFormat name (.bool accepts) := nofun

theorem inline_iff : HasFormat name (.inline k) ↔
    k.typeFormat? = some name ∨ ∃ x ∈ k.typeParts, HasFormat name x := by
  constructor
  · intro h
    cases h with
    | own h => exact .inl h
    | part mem h => exact .inr ⟨_, mem, h⟩
  · rintro (h | ⟨x, mem, h⟩)
    · exact .own h
    · exact .part mem h

theorem allOf_iff (hall : k.allOf ≠ []) : HasFormat name (.inline k) ↔
    (∃ x ∈ k.allOf, HasFormat name x) ∨ ∃ x ∈ k.memberSchemas, HasFormat name x := by
  rw [inline_iff]
  simp [Keywords.typeFormat?, Keywords.typeParts, Keywords.isComposite, hall, or_and_right, exists_or]

theorem union_iff (hall : k.allOf = []) (hunion : k.unionBranches ≠ []) :
    HasFormat name (.inline k) ↔ ∃ x ∈ k.unionBranches, HasFormat name x := by
  have hcomposite : k.isComposite = true := by
    by_contra h
    exact hunion (Keywords.isComposite_eq_false.1 (by simpa using h)).2
  rw [inline_iff]
  simp [Keywords.typeFormat?, Keywords.typeParts, hcomposite, hall, hunion]

theorem not_literal (hcomposite : k.isComposite = false) (hlisted : k.isLiteral = true) :
    ¬HasFormat name (.inline k) := by
  obtain ⟨hall, hunion⟩ := Keywords.isComposite_eq_false.1 hcomposite
  rw [inline_iff]
  simp [Keywords.typeFormat?, Keywords.typeParts, hlisted, hall, hunion]

/-- Where nothing is put together and no values are listed, the format is that of a string, of the
items of an array or of the members of an object. -/
theorem plain_iff (name : String) (hcomposite : k.isComposite = false)
    (hlisted : k.isLiteral = false) :
    HasFormat name (.inline k) ↔ match k.type with
      | some .string => k.format = some name
      | some .array => ∃ x ∈ k.items.toList, HasFormat name x
      | some .object => ∃ x ∈ k.memberSchemas, HasFormat name x
      | some _ => False
      | none =>
        if k.isObjectLike then ∃ x ∈ k.memberSchemas, HasFormat name x
        else if k.items.isSome then ∃ x ∈ k.items.toList, HasFormat name x
        else k.format = some name := by
  obtain ⟨hall, hunion⟩ := Keywords.isComposite_eq_false.1 hcomposite
  rw [inline_iff]
  simp only [Keywords.typeFormat?, Keywords.typeParts, hcomposite, hlisted, hall, hunion,
    List.isEmpty_nil, Bool.not_true, Bool.or_false, Bool.false_eq_true, if_false]
  rcases k.type with _ | type
  · cases k.isObjectLike <;> cases k.items <;> simp
  · cases type <;> simp

theorem object_iff (hcomposite : k.isComposite = false) (hlisted : k.isLiteral = false)
    (hobject : k.isObjectLike = true) :
    HasFormat name (.inline k) ↔ ∃ x ∈ k.memberSchemas, HasFormat name x := by
  rw [plain_iff _ hcomposite hlisted]
  rcases htype : k.type with _ | type
  · simp [hobject]
  · simp only [Keywords.isObjectLike, htype] at hobject
    cases type <;> simp at hobject ⊢

theorem array_iff (hcomposite : k.isComposite = false) (hlisted : k.isLiteral = false)
    (harray : k.isArrayLike = true) (hobject : k.isObjectLike = false) :
    HasFormat name (.inline k) ↔ ∃ x ∈ k.items.toList, HasFormat name x := by
  rw [plain_iff _ hcomposite hlisted]
  rcases htype : k.type with _ | type
  · simp only [Keywords.isArrayLike, htype] at harray
    simp [hobject, harray]
  · simp only [Keywords.isArrayLike, htype] at harray
    cases type <;> simp at harray ⊢

theorem not_unconstrained (h : k.isUnconstrained = true) : ¬HasFormat name (.inline k) := by
  simp only [Keywords.isUnconstrained, Bool.and_eq_true, Bool.not_eq_true', List.isEmpty_iff,
    Option.isNone_iff_eq_none] at h
  obtain ⟨⟨⟨⟨⟨⟨⟨htype, hcomposite⟩, hproperties⟩, hfurther⟩, hitems⟩, henum⟩, hconst⟩, hformat⟩ := h
  rw [plain_iff _ hcomposite (by simp [Keywords.isLiteral, henum, hconst])]
  simp [htype, hitems, hformat, Keywords.isObjectLike, hproperties, hfurther]

end Schema.HasFormat

/-! ## Formats of types -/

namespace Compiler

variable {c : Compiler} {name : String} {k : Keywords Schema}

/-- The type holds text of the format if and only if the schema has it. -/
def ShowsFormat (c : Compiler) (name : String) (schema : Schema) : Prop :=
  Ensures (c.schemaType schema)
    fun type => type.HasSpan (.stringFormat name) ↔ schema.HasFormat name

theorem mapM_types_hasSpan {xs : List Schema} (h : ∀ x ∈ xs, c.ShowsFormat name x) :
    Ensures ((xs.map c.schemaType).mapM id) fun types =>
      (∃ type ∈ types, type.HasSpan (.stringFormat name)) ↔ ∃ x ∈ xs, x.HasFormat name := by
  rw [List.mapM_map]
  exact (Ensures.mapM h).mono fun _ => exists_mem_iff

theorem stringType_hasSpan (name : String) (hformats : c.formats.IsProper) :
    Ensures (c.stringType k) fun type => type.HasSpan (.stringFormat name) ↔ k.format = some name := by
  unfold stringType
  split
  case h_1 h => exact .pure (by simp [h])
  case h_2 declared h =>
    refine .bind_read fun format hformat => .bind_any fun _ => .pure ?_
    obtain ⟨hname, htype⟩ := hformats _ _ (Registry.require_eq_ok hformat)
    simp [Format.typeCode, Format.origin, hname, htype, h]

theorem arrayType_hasSpan (name : String) (h : ∀ x ∈ k.items.toList, c.ShowsFormat name x) :
    Ensures (arrayType (k.items.map c.schemaType)) fun type =>
      type.HasSpan (.stringFormat name) ↔ ∃ x ∈ k.items.toList, x.HasFormat name := by
  cases hitems : k.items with
  | none => exact .pure (by simp)
  | some items =>
    refine .bind (h items (by simp [hitems])) fun type htype => .pure ?_
    simp [Code.hasSpan_cat, htype]

theorem objectType_hasSpan (h : ∀ x ∈ k.memberSchemas, c.ShowsFormat name x) :
    Ensures (objectType (c.partTypes k)) fun type =>
      type.HasSpan (.stringFormat name) ↔ ∃ x ∈ k.memberSchemas, x.HasFormat name := by
  unfold objectType
  rw [properties_partTypes, additionalProperties_partTypes, List.mapM_map]
  refine .bind (.mapM (R := fun entry field =>
    field.type.HasSpan (.stringFormat name) ↔ entry.2.HasFormat name) fun entry hentry => ?_)
    fun fields hfields => ?_
  · have hentry := h entry.2 (Keywords.mem_memberSchemas.2 (.inl ⟨_, hentry⟩))
    exact Ensures.bind hentry fun type htype => .pure htype
  have hlast (index : Option Code) (hindex : (∃ type ∈ index, type.HasSpan (.stringFormat name)) ↔
      ∃ x ∈ k.furtherSchemas, x.HasFormat name) (isOpen : Bool) :
      Ensures (Pure.pure (Code.recordType fields index isOpen) : Compile Code) fun type =>
        type.HasSpan (.stringFormat name) ↔ ∃ x ∈ k.memberSchemas, x.HasFormat name := by
    refine .pure ?_
    rw [Code.hasSpan_recordType, exists_mem_iff hfields, hindex]
    simp only [Keywords.memberSchemas, List.mem_append, List.mem_map, or_and_right, exists_or,
      exists_exists_and_eq_and]
  have hfurther : k.furtherSchemas ⊆ k.memberSchemas := List.subset_append_right _ _
  rcases k with ⟨_, _, _, _, _, _, _, _ | (_ | _) | schema⟩
  · exact .bind (.pure (by simp [Keywords.furtherSchemas])) fun index hindex => hlast index hindex _
  · exact .bind (.pure (by simp [Keywords.furtherSchemas])) fun index hindex => hlast index hindex _
  · exact .bind (.pure (by simp [Keywords.furtherSchemas])) fun index hindex => hlast index hindex _
  · refine .bind (.map some ((h schema (hfurther (by simp [Keywords.furtherSchemas]))).mono
      fun type htype => ?_)) fun index hindex => hlast index hindex _
    simpa [Keywords.furtherSchemas] using htype

theorem allOfType_hasSpan (hall : k.allOf ≠ []) (hparts : ∀ x ∈ k.allOf, c.ShowsFormat name x)
    (hmembers : ∀ x ∈ k.memberSchemas, c.ShowsFormat name x) :
    Ensures (c.keywordsType k (c.partTypes k)) fun type =>
      type.HasSpan (.stringFormat name) ↔ (Schema.inline k).HasFormat name := by
  unfold keywordsType
  rw [if_pos (by simpa using hall), allOf_partTypes]
  refine .bind (mapM_types_hasSpan hparts) fun types htypes => ?_
  have last (own : List Code) (hown : (∃ type ∈ own, type.HasSpan (.stringFormat name)) ↔
      ∃ x ∈ k.memberSchemas, x.HasFormat name) :
      Ensures (Pure.pure (Code.combined " & " (types ++ own)) : Compile Code) fun type =>
        type.HasSpan (.stringFormat name) ↔ (Schema.inline k).HasFormat name := by
    refine .pure ?_
    rw [Code.hasSpan_combined, Schema.HasFormat.allOf_iff hall, ← htypes, ← hown]
    simp [or_and_right, exists_or]
  split
  case isTrue hown =>
    refine .bind (.pure ?_) last
    simp [Keywords.memberSchemas_eq_nil (by simpa using hown)]
  case isFalse =>
    have object := objectType_hasSpan hmembers
    exact .bind (.map _ (object.mono fun type htype => by simpa using htype)) last

theorem unionType_hasSpan (hall : k.allOf = []) (hunion : k.unionBranches ≠ [])
    (hbranches : ∀ x ∈ k.unionBranches, c.ShowsFormat name x) :
    Ensures (c.keywordsType k (c.partTypes k)) fun type =>
      type.HasSpan (.stringFormat name) ↔ (Schema.inline k).HasFormat name := by
  have union : Ensures (do
      return Code.combined " | " (← (k.unionBranches.map c.schemaType).mapM id) : Compile Code)
      fun type => type.HasSpan (.stringFormat name) ↔ (Schema.inline k).HasFormat name :=
    .bind (mapM_types_hasSpan hbranches) fun types htypes =>
      .pure (by rw [Code.hasSpan_combined, htypes, Schema.HasFormat.union_iff hall hunion])
  unfold keywordsType
  simp only [Bool.not_eq_true', List.isEmpty_eq_false_iff]
  rw [if_neg (not_not.2 hall)]
  split
  case isTrue hone =>
    rw [oneOf_partTypes]
    simpa [Keywords.unionBranches, hone] using union
  case isFalse hone =>
  rw [not_not] at hone
  have hany : k.anyOf ≠ [] := by simpa [Keywords.unionBranches, hone] using hunion
  rw [if_pos hany, anyOf_partTypes]
  simpa [Keywords.unionBranches, hone] using union

theorem plainType_hasSpan (hformats : c.formats.IsProper) (hcomposite : k.isComposite = false)
    (hmembers : ∀ x ∈ k.memberSchemas, c.ShowsFormat name x)
    (hitems : ∀ x ∈ k.items.toList, c.ShowsFormat name x) :
    Ensures (c.keywordsType k (c.partTypes k)) fun type =>
      type.HasSpan (.stringFormat name) ↔ (Schema.inline k).HasFormat name := by
  have object := objectType_hasSpan hmembers
  have array := arrayType_hasSpan name hitems
  have string := stringType_hasSpan (k := k) name hformats
  have hplain := hcomposite
  simp only [Keywords.isComposite, Bool.or_eq_false_iff] at hplain
  obtain ⟨⟨hall, hone⟩, hany⟩ := hplain
  unfold keywordsType
  rw [if_neg (by simp [hall]), if_neg (by simp [hone]), if_neg (by simp [hany])]
  simp only [Bool.not_eq_true', List.isEmpty_eq_false_iff]
  split
  case isTrue henum =>
    have hlisted : k.isLiteral = true := by simp [Keywords.isLiteral, henum]
    exact .pure (iff_of_false (by simp) (Schema.HasFormat.not_literal hcomposite hlisted))
  case isFalse henum =>
  rw [not_not] at henum
  split
  case h_1 value hconst =>
    have hlisted : k.isLiteral = true := by simp [Keywords.isLiteral, hconst]
    exact .pure (iff_of_false (by simp) (Schema.HasFormat.not_literal hcomposite hlisted))
  case h_2 hconst =>
  have hlisted : k.isLiteral = false := by
    simp [Keywords.isLiteral, henum, Option.eq_none_iff_forall_ne_some.2 hconst]
  rw [items_partTypes]
  simp only [Schema.HasFormat.plain_iff _ hcomposite hlisted]
  split
  case h_1 | h_2 | h_3 | h_4 => exact .pure (by simp_all)
  case h_5 htype => exact string.mono fun type h => by simpa [htype] using h
  case h_6 htype => exact array.mono fun type h => by simpa [htype] using h
  case h_7 htype => exact object.mono fun type h => by simpa [htype] using h
  case h_8 => exact .throw _
  case h_9 htype =>
    simp only [htype]
    split
    · exact object
    split
    · exact array
    split
    · exact string
    case isFalse hformat => exact .pure (by simp_all)

/-- The type for the keywords of a schema object holds text of the format where the schema object has
it, if the types of the schemas inside do. -/
theorem keywordsType_hasSpan (hformats : c.formats.IsProper)
    (h : ∀ x ∈ k.children, c.ShowsFormat name x) : Ensures (c.keywordsType k (c.partTypes k))
      fun type => type.HasSpan (.stringFormat name) ↔ (Schema.inline k).HasFormat name := by
  have hmembers : ∀ x ∈ k.memberSchemas, c.ShowsFormat name x :=
    fun x hx => h x (Keywords.mem_children.2 (.inl hx))
  by_cases hall : k.allOf = []
  · by_cases hunion : k.unionBranches = []
    · exact plainType_hasSpan hformats (Keywords.isComposite_eq_false.2 ⟨hall, hunion⟩) hmembers
        fun x hx => h x (Keywords.mem_children.2 (.inr (.inl (by simpa using hx))))
    · exact unionType_hasSpan hall hunion fun x hx => h x (Keywords.unionBranches_subset hx)
  · exact allOfType_hasSpan hall
      (fun x hx => h x (Keywords.mem_children.2 (.inr (.inr (.inl hx))))) hmembers

/-- A type holds text of exactly the formats that the schema has. -/
theorem schemaType_hasSpan (hformats : c.formats.IsProper) (schema : Schema) :
    c.ShowsFormat name schema := by
  induction schema using Schema.induction with
  | ref target => exact .bind_any fun _ => .pure (by simp [Schema.HasFormat.not_ref])
  | bool accepts =>
    refine .pure (iff_of_false ?_ Schema.HasFormat.not_bool)
    cases accepts <;> exact Code.not_hasSpan_site _
  | inline k ih =>
    rw [ShowsFormat, schemaType_inline]
    refine .bind (keywordsType_hasSpan hformats ih) fun type htype => .pure ?_
    rw [← htype]
    split <;> simp

end Compiler

end OpenApi

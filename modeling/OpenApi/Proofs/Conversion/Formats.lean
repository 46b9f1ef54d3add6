import OpenApi.Proofs.Conversion.Answers
import OpenApi.Proofs.Document.Flattening
import OpenApi.Proofs.Types.Formats

/-!
Formats decide whether there is anything to convert. In a schema without references the type of the
values and their conversion see formats in the same places, although they take compositions apart in
different ways: a value is converted if and only if its type holds text of a format that changes it.
-/

namespace OpenApi

/-! ## Schemas without references -/

/-- The schema has no references, and all of its schema objects have the property. -/
inductive Schema.Within (P : Keywords Schema → Prop) : Schema → Prop
  | bool (accepts : Bool) : Within P (.bool accepts)
  | inline {k : Keywords Schema} (own : P k) (inside : ∀ x ∈ k.children, Within P x) :
      Within P (.inline k)

namespace Schema.Within

variable {P : Keywords Schema → Prop} {k : Keywords Schema}

theorem own (h : Within P (.inline k)) : P k := by
  cases h
  assumption

theorem inside (h : Within P (.inline k)) : ∀ x ∈ k.children, Within P x := by
  cases h
  assumption

theorem inline_iff : Within P (.inline k) ↔ P k ∧ ∀ x ∈ k.children, Within P x :=
  ⟨fun h => ⟨h.own, h.inside⟩, fun ⟨own, inside⟩ => .inline own inside⟩

theorem memberSchemas (h : Within P (.inline k)) : ∀ x ∈ k.memberSchemas, Within P x :=
  fun x hx => h.inside x (Keywords.mem_children.2 (.inl hx))

theorem items (h : Within P (.inline k)) : ∀ x ∈ k.items.toList, Within P x :=
  fun x hx => h.inside x (Keywords.mem_children.2 (.inr (.inl (by simpa using hx))))

theorem allOf (h : Within P (.inline k)) : ∀ x ∈ k.allOf, Within P x :=
  fun x hx => h.inside x (Keywords.mem_children.2 (.inr (.inr (.inl hx))))

theorem unionBranches (h : Within P (.inline k)) : ∀ x ∈ k.unionBranches, Within P x :=
  fun x hx => h.inside x (Keywords.unionBranches_subset hx)

theorem deref {part : Schema} (h : part.Within P) (doc : Document) :
    (∃ accepts, part = .bool accepts ∧ doc.deref .schema part = .ok (.bool accepts)) ∨
      ∃ k, part = .inline k ∧ doc.deref .schema part = .ok (.inline k) := by
  cases h with
  | bool accepts => exact .inl ⟨accepts, rfl, rfl⟩
  | inline => exact .inr ⟨_, rfl, rfl⟩

end Schema.Within

/-- The schema objects that an `allOf` is merged from if it has no references: those of its parts,
each after its own parts, and the schema itself last. -/
def Schema.flattened : Schema → List (Keywords Schema) :=
  fold (fun _ => []) (fun _ => []) fun k parts => parts.allOf.flatten ++ [k]

theorem Schema.flattened_inline (k : Keywords Schema) :
    flattened (.inline k) = k.allOf.flatMap flattened ++ [k] := by
  show (foldKeywords _ _ _ k).allOf.flatten ++ [k] = _
  rw [allOf_foldKeywords]
  rfl

namespace Keywords

/-- Values are listed only where they are no objects and no arrays, and what an `allOf` is merged from
declares no property twice, nor further members. -/
@[mk_iff]
structure IsSeparate (k : Keywords Schema) : Prop where
  listed : k.isLiteral = true → k.isObjectLike = false ∧ k.isArrayLike = false
  properties : k.allOf ≠ [] →
    ((Schema.flattened (.inline k)).flatMap fun part => Members.names part.properties).Nodup
  further : k.allOf ≠ [] →
    (Schema.flattened (.inline k)).countP (·.additionalProperties.isSome) ≤ 1

theorem IsSeparate.not_literal {k : Keywords Schema} (hk : k.IsSeparate)
    (h : k.isObjectLike = true ∨ k.isArrayLike = true) : k.isLiteral = false := by
  by_contra hlit
  obtain ⟨hobject, harray⟩ := hk.listed (by simpa using hlit)
  simp [hobject, harray] at h

end Keywords

/-! ## Parts of an `allOf` -/

section

variable {doc : Document} {name : String} {k : Keywords Schema} {parts : List Schema}
  {objects : List (Keywords Schema)}

/-- A part of an `allOf` has the formats of its own parts and of its members. -/
theorem Merge.hasFormat_part (hk : k.IsSeparate) (h : Merge.isPart k = true) :
    (Schema.inline k).HasFormat name ↔
      (∃ x ∈ k.allOf, x.HasFormat name) ∨ ∃ x ∈ k.memberSchemas, x.HasFormat name := by
  obtain ⟨hpart, hunion⟩ : (k.isObjectLike = true ∨ k.allOf ≠ [] ∨ k.isUnconstrained = true) ∧
      k.unionBranches = [] := by simpa [isPart, or_assoc] using h
  by_cases hall : k.allOf = []
  case neg => exact Schema.HasFormat.allOf_iff hall
  rw [hall]
  have hcomposite := Keywords.isComposite_eq_false.2 ⟨hall, hunion⟩
  rcases hpart with hobject | hne | hfree
  · simpa using Schema.HasFormat.object_iff hcomposite (hk.not_literal (.inl hobject)) hobject
  · exact absurd hall hne
  · refine iff_of_false (Schema.HasFormat.not_unconstrained hfree) ?_
    have hempty : k.properties = [] ∧ k.additionalProperties = none := by
      simp [Keywords.isUnconstrained] at hfree
      tauto
    simp [Keywords.memberSchemas_eq_nil hempty]

namespace Document.Flattens

theorem within {P : Keywords Schema → Prop} (h : doc.Flattens parts objects)
    (hparts : ∀ x ∈ parts, x.Within P) : ∀ k ∈ objects, (Schema.inline k).Within P := by
  induction h with
  | nil => simp
  | any _ _ ih => exact ih (List.forall_mem_cons.1 hparts).2
  | object target _ _ _ ih ih' =>
    obtain ⟨hpart, hrest⟩ := List.forall_mem_cons.1 hparts
    obtain ⟨_, _, hderef⟩ | ⟨k, rfl, hderef⟩ := hpart.deref doc
    all_goals rw [hderef] at target; cases target
    exact List.forall_mem_append.2 ⟨ih hpart.allOf, List.forall_mem_cons.2 ⟨hpart, ih' hrest⟩⟩

theorem eq_flattened {P : Keywords Schema → Prop} (h : doc.Flattens parts objects)
    (hparts : ∀ x ∈ parts, x.Within P) : objects = parts.flatMap Schema.flattened := by
  induction h with
  | nil => rfl
  | any target _ ih =>
    obtain ⟨hpart, hrest⟩ := List.forall_mem_cons.1 hparts
    obtain ⟨_, rfl, _⟩ | ⟨k, rfl, hderef⟩ := hpart.deref doc
    · exact ih hrest
    · rw [hderef] at target; cases target
  | object target _ _ _ ih ih' =>
    obtain ⟨hpart, hrest⟩ := List.forall_mem_cons.1 hparts
    obtain ⟨_, _, hderef⟩ | ⟨k, rfl, hderef⟩ := hpart.deref doc
    all_goals rw [hderef] at target; cases target
    rw [List.flatMap_cons, Schema.flattened_inline, ← ih hpart.allOf, ← ih' hrest, List.append_assoc,
      List.singleton_append]

/-- The members of what an `allOf` is merged from have the formats of its parts. -/
theorem hasFormat (h : doc.Flattens parts objects)
    (hparts : ∀ x ∈ parts, x.Within Keywords.IsSeparate) :
    (∃ k ∈ objects, ∃ x ∈ k.memberSchemas, x.HasFormat name) ↔ ∃ part ∈ parts, part.HasFormat name := by
  induction h with
  | nil => simp
  | any target _ ih =>
    obtain ⟨hpart, hrest⟩ := List.forall_mem_cons.1 hparts
    obtain ⟨_, rfl, _⟩ | ⟨k, rfl, hderef⟩ := hpart.deref doc
    · rw [ih hrest, List.exists_mem_cons_iff]
      simp [Schema.HasFormat.not_bool]
    · rw [hderef] at target; cases target
  | @object part rest k inner objects target hisPart _ _ ih ih' =>
    obtain ⟨hpart, hrest⟩ := List.forall_mem_cons.1 hparts
    obtain ⟨_, _, hderef⟩ | ⟨k, rfl, hderef⟩ := hpart.deref doc
    all_goals rw [hderef] at target; cases target
    rw [List.exists_mem_cons_iff, Merge.hasFormat_part hpart.own hisPart, ← ih hpart.allOf,
      ← ih' hrest]
    simp [or_and_right, exists_or, or_assoc]

end Document.Flattens

/-- The object that an `allOf` amounts to has the formats of the schema. -/
theorem Document.mergeAllOf_hasFormat {depth : Nat} {merged : Keywords Schema}
    (hk : (Schema.inline k).Within Keywords.IsSeparate) (hall : k.allOf ≠ [])
    (h : doc.mergeAllOf depth k = .ok merged) (name : String) :
    ((∃ x ∈ merged.memberSchemas, x.HasFormat name) ↔ (Schema.inline k).HasFormat name) ∧
      ∀ x ∈ merged.memberSchemas, x.Within Keywords.IsSeparate := by
  obtain ⟨inner, hinner, rfl⟩ := mergeAllOf_flattens h
  -- without references there is one way only to flatten the parts
  have hflat : inner ++ [k] = Schema.flattened (.inline k) := by
    rw [Schema.flattened_inline, hinner.eq_flattened hk.allOf]
  have hmembers : ∀ x, x ∈ ((inner ++ [k]).foldl Merge.extended
      { type := some .object }).memberSchemas ↔ ∃ k' ∈ inner ++ [k], x ∈ k'.memberSchemas := by
    intro x
    rw [hflat, Merge.mem_memberSchemas_foldl_extended, List.exists_mem_cons_iff]
    · simp [Keywords.memberSchemas, Keywords.furtherSchemas]
    · simpa [Members.names] using hk.own.properties hall
    · simpa using hk.own.further hall
  constructor
  · rw [Schema.HasFormat.allOf_iff hall, ← hinner.hasFormat hk.allOf]
    simp only [hmembers]
    constructor
    · rintro ⟨x, ⟨k', hk', hx⟩, hformat⟩
      rcases List.mem_append.1 hk' with hk' | hk'
      · exact .inl ⟨k', hk', x, hx, hformat⟩
      · rw [List.mem_singleton.1 hk'] at hx
        exact .inr ⟨x, hx, hformat⟩
    · rintro (⟨k', hk', x, hx, hformat⟩ | ⟨x, hx, hformat⟩)
      · exact ⟨x, ⟨k', List.mem_append_left _ hk', hx⟩, hformat⟩
      · exact ⟨x, ⟨k, List.mem_append_right _ List.mem_cons_self, hx⟩, hformat⟩
  · intro x hx
    obtain ⟨k', hk', hx⟩ := (hmembers x).1 hx
    have hwithin : ∀ k' ∈ inner ++ [k], (Schema.inline k').Within Keywords.IsSeparate :=
      List.forall_mem_append.2 ⟨hinner.within hk.allOf, by simpa using hk⟩
    exact (hwithin k' hk').memberSchemas x hx

end

/-! ## Shapes of unions -/

namespace UnionShapes

/-- The shapes have the formats of the branches: those of the branches for strings, and those of the
schemas for objects and for items. -/
structure Shows (shapes : UnionShapes) (formats : Registry) (branches : List Schema) : Prop where
  hasFormat : ∀ name, ((∃ f ∈ shapes.formats, f.name = name) ∨
    ∃ x ∈ shapes.objects ++ shapes.arrays, x.HasFormat name) ↔ ∃ x ∈ branches, x.HasFormat name
  registered : ∀ f ∈ shapes.formats, formats.get? f.name = some f
  inside : ∀ x ∈ shapes.objects ++ shapes.arrays, x.Within Keywords.IsSeparate

namespace Shows

variable {doc : Document} {formats : Registry} {shapes shapes' : UnionShapes}
  {branches : List Schema} {branch : Schema} {k : Keywords Schema}

theorem exists_mem_concat {p : Schema → Prop} :
    (∃ x ∈ branches ++ [branch], p x) ↔ (∃ x ∈ branches, p x) ∨ p branch := by
  simp [or_and_right, exists_or]

/-- A branch without formats may be left out. -/
theorem skip (h : shapes.Shows formats branches) (hnone : ∀ name, ¬branch.HasFormat name) :
    shapes.Shows formats (branches ++ [branch]) where
  hasFormat name := by rw [h.hasFormat, exists_mem_concat, or_iff_left (hnone name)]
  registered := h.registered
  inside := h.inside

theorem addObject (h : shapes.Shows formats branches) (hbranch : branch.Within Keywords.IsSeparate) :
    (shapes.addObject branch).Shows formats (branches ++ [branch]) where
  hasFormat name := by
    rw [exists_mem_concat, ← h.hasFormat]
    simp only [UnionShapes.addObject, List.mem_append, List.mem_singleton, or_and_right, exists_or,
      exists_eq_left, or_assoc, or_comm (a := branch.HasFormat name)]
  registered := h.registered
  inside := by
    have := List.forall_mem_append.1 h.inside
    exact List.forall_mem_append.2 ⟨List.forall_mem_append.2 ⟨this.1, by simpa using hbranch⟩, this.2⟩

theorem addArray (h : shapes.Shows formats branches) {items : Option Schema}
    (hitems : ∀ x ∈ items.toList, x.Within Keywords.IsSeparate)
    (hbranch : ∀ name, branch.HasFormat name ↔ ∃ x ∈ items.toList, x.HasFormat name) :
    (shapes.addArray items).Shows formats (branches ++ [branch]) where
  hasFormat name := by
    have hitem : (∃ x ∈ items.toList, x.HasFormat name) ↔
        (items.getD (.bool true)).HasFormat name := by
      cases items <;> simp [Schema.HasFormat.not_bool]
    rw [exists_mem_concat, ← h.hasFormat, hbranch, hitem]
    simp only [UnionShapes.addArray, List.mem_append, List.mem_singleton, or_and_right, exists_or,
      exists_eq_left, or_assoc]
  registered := h.registered
  inside := by
    have hitem : (items.getD (.bool true)).Within Keywords.IsSeparate := by
      cases items with
      | none => exact .bool true
      | some items => exact hitems items (by simp)
    have := List.forall_mem_append.1 h.inside
    exact List.forall_mem_append.2 ⟨this.1, List.forall_mem_append.2 ⟨this.2, by simpa using hitem⟩⟩

theorem addString (h : shapes.Shows formats branches) (hformats : formats.IsProper)
    (hlisted : k.isLiteral = true → ∀ name, ¬branch.HasFormat name)
    (hbranch : k.isLiteral = false → ∀ name, branch.HasFormat name ↔ k.format = some name)
    (hadd : shapes.addString formats k = .ok shapes') :
    shapes'.Shows formats (branches ++ [branch]) := by
  unfold UnionShapes.addString at hadd
  split at hadd
  case h_1 hnone =>
    have hno : ∀ name, ¬branch.HasFormat name := by
      cases hlit : k.isLiteral with
      | true => exact hlisted hlit
      | false => simp [hbranch hlit, hnone]
    cases hadd
    exact ⟨(h.skip hno).hasFormat, h.registered, h.inside⟩
  case h_2 declared hsome =>
    split at hadd
    case isTrue hlit =>
      cases hadd
      exact ⟨(h.skip (hlisted hlit)).hasFormat, h.registered, h.inside⟩
    case isFalse hlit =>
      obtain ⟨format, hformat, hadd⟩ := Except.bind_eq_ok.1 hadd
      cases hadd
      have hget := Registry.require_eq_ok hformat
      obtain ⟨rfl, _⟩ := hformats _ _ hget
      refine ⟨fun name => ?_, List.forall_mem_append.2 ⟨h.registered, by simpa using hget⟩, h.inside⟩
      rw [exists_mem_concat, ← h.hasFormat, hbranch (by simpa using hlit), hsome, Option.some.injEq,
        or_right_comm]
      simp only [List.mem_append, List.mem_singleton, or_and_right, exists_or, exists_eq_left]

theorem addKeywords (h : shapes.Shows formats branches) (hformats : formats.IsProper)
    (hk : (Schema.inline k).Within Keywords.IsSeparate)
    (hadd : shapes.addKeywords formats (.inline k) k = .ok shapes') :
    shapes'.Shows formats (branches ++ [.inline k]) := by
  unfold UnionShapes.addKeywords at hadd
  split at hadd
  case isTrue => cases hadd
  case isFalse hcomposite =>
  replace hcomposite : k.isComposite = false := by simpa using hcomposite
  dsimp only at hadd
  have listed (hlit : k.isLiteral = true) (name : String) : ¬(Schema.inline k).HasFormat name :=
    Schema.HasFormat.not_literal hcomposite hlit
  have plain (hlit : k.isLiteral = false) (name : String) :=
    Schema.HasFormat.plain_iff name hcomposite hlit
  have h' : UnionShapes.Shows { shapes with null := shapes.null || k.isNullable } formats branches :=
    ⟨h.hasFormat, h.registered, h.inside⟩
  have array (harray : k.isArrayLike = true) (hobject : k.isObjectLike = false) :=
    h'.addArray hk.items fun name => (Schema.HasFormat.array_iff hcomposite
      (hk.own.not_literal (.inr harray)) harray hobject)
  have other (hno : k.isLiteral = false → ∀ name, ¬(Schema.inline k).HasFormat name) :=
    h'.skip fun name => by
      cases hlit : k.isLiteral with
      | true => exact listed hlit name
      | false => exact hno hlit name
  split at hadd
  case h_1 htype => cases hadd; exact h'.addObject hk
  case h_2 htype =>
    cases hadd
    exact array (by simp [Keywords.isArrayLike, htype]) (by simp [Keywords.isObjectLike, htype])
  case h_7 htype =>
    refine h'.addString hformats listed (fun hlit name => ?_) hadd
    rw [plain hlit, htype]
  case h_8 => cases hadd
  case h_9 htype =>
    split at hadd
    case isTrue hobject => cases hadd; exact h'.addObject hk
    case isFalse hobject =>
    split at hadd
    case isTrue hitems =>
      cases hadd
      exact array (by simp [Keywords.isArrayLike, htype, hitems]) (by simpa using hobject)
    case isFalse hitems =>
    split at hadd
    case isTrue =>
      refine h'.addString hformats listed (fun hlit name => ?_) hadd
      rw [plain hlit, htype]
      simp [hobject, hitems]
    case isFalse hformat =>
      cases hadd
      have := other fun hlit name => by
        rw [plain hlit, htype]
        simpa [hobject, hitems] using fun heq => hformat (by simp [heq])
      exact ⟨this.hasFormat, this.registered, this.inside⟩
  all_goals
    rename_i htype
    cases hadd
    have := other fun hlit name => by rw [plain hlit, htype]; exact id
    exact ⟨this.hasFormat, this.registered, this.inside⟩

theorem add (h : shapes.Shows formats branches) (hformats : formats.IsProper)
    (hbranch : branch.Within Keywords.IsSeparate)
    (hadd : UnionShapes.add doc formats shapes branch = .ok shapes') :
    shapes'.Shows formats (branches ++ [branch]) := by
  obtain ⟨target, htarget, hadd⟩ := Except.bind_eq_ok.1 hadd
  obtain ⟨accepts, rfl, hderef⟩ | ⟨k, rfl, hderef⟩ := hbranch.deref doc
  all_goals rw [hderef] at htarget; cases htarget
  · have := h.skip (show ∀ name, ¬(Schema.bool accepts).HasFormat name from
      fun _ => Schema.HasFormat.not_bool)
    cases accepts <;> cases hadd <;> exact ⟨this.hasFormat, this.registered, this.inside⟩
  · exact h.addKeywords hformats hbranch hadd

theorem foldlM_add (h : shapes.Shows formats branches) (hformats : formats.IsProper)
    {more : List Schema} (hmore : ∀ x ∈ more, x.Within Keywords.IsSeparate)
    (hadd : more.foldlM (UnionShapes.add doc formats) shapes = .ok shapes') :
    shapes'.Shows formats (branches ++ more) := by
  -- `branches` are those that the shapes have taken in so far
  induction more generalizing shapes branches with
  | nil => cases hadd; simpa using h
  | cons branch rest ih =>
    obtain ⟨hbranch, hrest⟩ := List.forall_mem_cons.1 hmore
    rw [List.foldlM_cons] at hadd
    obtain ⟨shapes₁, hstep, hadd⟩ := Except.bind_eq_ok.1 hadd
    simpa using ih (h.add hformats hbranch hstep) hrest hadd

theorem itemSchemas (h : shapes.Shows formats branches) (name : String) :
    ((∃ x ∈ shapes.itemSchemas, x.HasFormat name) ↔ ∃ x ∈ shapes.arrays, x.HasFormat name) ∧
      ∀ x ∈ shapes.itemSchemas, x.Within Keywords.IsSeparate := by
  have harrays := (List.forall_mem_append.1 h.inside).2
  unfold UnionShapes.itemSchemas
  split
  case h_1 heq => simp [heq]
  case h_2 items heq => simpa [heq] using harrays
  case h_3 items _ hmany =>
    have hunion : ({ oneOf := shapes.arrays } : Keywords Schema).unionBranches = shapes.arrays := by
      simp [Keywords.unionBranches]
    have hall : ({ oneOf := shapes.arrays } : Keywords Schema).allOf = [] := rfl
    simp only [List.mem_singleton, exists_eq_left, forall_eq]
    constructor
    · rw [Schema.HasFormat.union_iff hall (by rwa [hunion]), hunion]
    · exact .inline ⟨by simp [Keywords.isLiteral], fun h => absurd hall h, fun h => absurd hall h⟩
        (by simpa [Keywords.children, Keywords.memberSchemas, Keywords.furtherSchemas] using harrays)

end Shows

end UnionShapes

/-! ## Outlines -/

/-- The outline has the formats of the schema, and leads to no references. -/
structure Outline.Shows (o : Outline) (formats : Registry) (schema : Schema) : Prop where
  hasFormat : ∀ name, ((∃ f ∈ o.formats, f.name = name) ∨ ∃ x ∈ o.inner, x.HasFormat name) ↔
    schema.HasFormat name
  registered : ∀ f ∈ o.formats, formats.get? f.name = some f
  inside : ∀ x ∈ o.inner, x.Within Keywords.IsSeparate

namespace Outline.Shows

variable {formats : Registry} {schema : Schema} {o : Outline}

/-- An outline without formats of its own. -/
theorem of_inner {inner : List Schema}
    (h : ∀ name, (∃ x ∈ inner, x.HasFormat name) ↔ schema.HasFormat name)
    (hinner : ∀ x ∈ inner, x.Within Keywords.IsSeparate) :
    Outline.Shows { inner } formats schema where
  hasFormat name := by simpa using h name
  registered := by simp
  inside := hinner

theorem of_none (h : ∀ name, ¬schema.HasFormat name) : Outline.Shows {} formats schema :=
  of_inner (fun name => iff_of_false (by simp) (h name)) (by simp)

/-- A schema is converted if and only if it has a format that changes the value. -/
theorem converts_iff (h : o.Shows formats schema) {d : Direction} :
    (o.converts d ∨ ∃ x ∈ o.inner, ∃ f, formats.get? f.name = some f ∧
      (f.template d).isIdentity = false ∧ x.HasFormat f.name) ↔
    ∃ f, formats.get? f.name = some f ∧ (f.template d).isIdentity = false ∧
      schema.HasFormat f.name := by
  constructor
  · rintro (⟨f, hf, hchanges⟩ | ⟨x, hx, f, hget, hchanges, hformat⟩)
    · exact ⟨f, h.registered f hf, hchanges, (h.hasFormat _).1 (.inl ⟨f, hf, rfl⟩)⟩
    · exact ⟨f, hget, hchanges, (h.hasFormat _).1 (.inr ⟨x, hx, hformat⟩)⟩
  · rintro ⟨f, hget, hchanges, hformat⟩
    rcases (h.hasFormat _).2 hformat with ⟨f', hf', hname⟩ | ⟨x, hx, hformat⟩
    · have heq := h.registered f' hf'
      rw [hname, hget] at heq
      cases heq
      exact .inl ⟨f, hf', hchanges⟩
    · exact .inr ⟨x, hx, f, hget, hchanges, hformat⟩

end Outline.Shows

namespace Compiler

variable {c : Compiler} {k : Keywords Schema} {o : Outline}

theorem discriminatorCases_error {mapping : Members String} {branches : List Schema}
    {P : Keywords Schema → Prop} (hbranches : ∀ x ∈ branches, x.Within P) (hne : branches ≠ [])
    {cases : List (String × String)} : discriminatorCases mapping branches ≠ .ok cases := by
  intro h
  cases branches with
  | nil => exact hne rfl
  | cons branch rest =>
    obtain ⟨_, hfirst, _⟩ := Except.bind_eq_ok.1 ((List.foldlM_cons ..).symm.trans h)
    cases (List.forall_mem_cons.1 hbranches).1 <;> cases hfirst

theorem unionOutline_shows (hformats : c.formats.IsProper) (hall : k.allOf = [])
    (hunion : k.unionBranches ≠ []) (hk : (Schema.inline k).Within Keywords.IsSeparate)
    (h : c.unionOutline k.unionBranches = .ok o) : o.Shows c.formats (.inline k) := by
  obtain ⟨shapes, hshapes, h⟩ := Except.bind_eq_ok.1 h
  have shows : shapes.Shows c.formats ([] ++ k.unionBranches) :=
    UnionShapes.Shows.foldlM_add ⟨by simp, by simp, by simp⟩ hformats hk.unionBranches hshapes
  split at h
  · cases h
  cases h
  refine ⟨fun name => ?_, shows.registered, List.forall_mem_append.2
    ⟨(List.forall_mem_append.1 shows.inside).1, (shows.itemSchemas "").2⟩⟩
  rw [Schema.HasFormat.union_iff hall hunion]
  have hbranches := shows.hasFormat name
  have hitems := (shows.itemSchemas name).1
  simp only [List.mem_append, or_and_right, exists_or, List.nil_append] at hbranches ⊢
  rw [hitems, hbranches]

theorem stringOutline_shows (hformats : c.formats.IsProper)
    (hlisted : k.isLiteral = true → ∀ name, ¬(Schema.inline k).HasFormat name)
    (hk : k.isLiteral = false → ∀ name, (Schema.inline k).HasFormat name ↔ k.format = some name)
    (h : c.stringOutline k = .ok o) : o.Shows c.formats (.inline k) := by
  unfold stringOutline at h
  split at h
  case h_1 hnone =>
    cases h
    cases hlit : k.isLiteral with
    | true => exact .of_none (hlisted hlit)
    | false => exact .of_none (by simp [hk hlit, hnone])
  case h_2 declared hsome =>
    split at h
    case isTrue hlit => cases h; exact .of_none (hlisted hlit)
    case isFalse hlit =>
      obtain ⟨format, hformat, h⟩ := Except.bind_eq_ok.1 h
      cases h
      have hget := Registry.require_eq_ok hformat
      obtain ⟨rfl, _⟩ := hformats _ _ hget
      refine ⟨fun name => ?_, by simpa using hget, by simp⟩
      simp [hk (by simpa using hlit), hsome]

theorem plainOutline_shows (hformats : c.formats.IsProper) (hcomposite : k.isComposite = false)
    (hk : (Schema.inline k).Within Keywords.IsSeparate) {depth : Nat}
    (h : c.outline depth k = .ok o) : o.Shows c.formats (.inline k) := by
  obtain ⟨hall, hunion⟩ := Keywords.isComposite_eq_false.1 hcomposite
  unfold outline at h
  rw [if_neg (by simp [hall]), if_neg (by simp [hunion])] at h
  have listed (hlit : k.isLiteral = true) (name : String) : ¬(Schema.inline k).HasFormat name :=
    Schema.HasFormat.not_literal hcomposite hlit
  have plain (hlit : k.isLiteral = false) (name : String) :=
    Schema.HasFormat.plain_iff name hcomposite hlit
  have object (hobject : k.isObjectLike = true) :
      Outline.Shows { inner := k.memberSchemas } c.formats (.inline k) :=
    .of_inner (fun name => (Schema.HasFormat.object_iff hcomposite
      (hk.own.not_literal (.inl hobject)) hobject).symm) hk.memberSchemas
  have array (harray : k.isArrayLike = true) (hobject : k.isObjectLike = false) :
      Outline.Shows { inner := k.items.toList } c.formats (.inline k) :=
    .of_inner (fun name => (Schema.HasFormat.array_iff hcomposite
      (hk.own.not_literal (.inr harray)) harray hobject).symm) hk.items
  have other (hno : k.isLiteral = false → ∀ name, ¬(Schema.inline k).HasFormat name) :
      Outline.Shows {} c.formats (.inline k) := by
    cases hlit : k.isLiteral with
    | true => exact .of_none (listed hlit)
    | false => exact .of_none (hno hlit)
  split at h
  case h_1 htype =>
    exact stringOutline_shows hformats listed (fun hlit name => by rw [plain hlit, htype]) h
  case h_2 htype =>
    cases h
    exact array (by simp [Keywords.isArrayLike, htype]) (by simp [Keywords.isObjectLike, htype])
  case h_3 htype =>
    cases h
    exact object (by simp [Keywords.isObjectLike, htype])
  case h_4 => cases h
  case h_5 type _ _ _ _ htype =>
    cases h
    refine other fun hlit name => ?_
    rw [plain hlit, htype]
    cases type <;> simp_all
  case h_6 htype =>
    split at h
    case isTrue hobject => cases h; exact object hobject
    case isFalse hobject =>
    split at h
    case isTrue hitems =>
      cases h
      exact array (by simp [Keywords.isArrayLike, htype, hitems]) (by simpa using hobject)
    case isFalse hitems =>
    have string (hlit : k.isLiteral = false) (name : String) :
        (Schema.inline k).HasFormat name ↔ k.format = some name := by
      rw [plain hlit, htype]
      simp [hobject, hitems]
    split at h
    case isTrue => exact stringOutline_shows hformats listed string h
    case isFalse hformat =>
      cases h
      refine other fun hlit name => ?_
      rw [string hlit]
      exact fun heq => hformat (by simp [heq])

/-- The conversion of a schema object without references sees the formats of the schema object. -/
theorem outline_shows (hformats : c.formats.IsProper)
    (hk : (Schema.inline k).Within Keywords.IsSeparate) {depth : Nat}
    (h : c.outline depth k = .ok o) : o.Shows c.formats (.inline k) := by
  by_cases hall : k.allOf = []
  · by_cases hunion : k.unionBranches = []
    · exact plainOutline_shows hformats (Keywords.isComposite_eq_false.2 ⟨hall, hunion⟩) hk h
    · unfold outline at h
      rw [if_neg (by simp [hall]), if_pos (by simp [hunion])] at h
      split at h
      case h_1 =>
        obtain ⟨cases, hcases, _⟩ := Except.bind_eq_ok.1 h
        exact absurd hcases (discriminatorCases_error hk.unionBranches hunion)
      case h_2 => exact unionOutline_shows hformats hall hunion hk h
  · unfold outline at h
    rw [if_pos (by simp [hall])] at h
    obtain ⟨merged, hmerged, h⟩ := Except.bind_eq_ok.1 h
    cases h
    have hmerge (name : String) := Document.mergeAllOf_hasFormat hk hall hmerged name
    exact .of_inner (fun name => (hmerge name).1) (hmerge "").2

end Compiler

/-! ## Conversions and types -/

section

variable {c : Compiler} {d : Direction}

/-- There is something to convert in those of the schemas that have a format that changes values. -/
theorem Answers.changing_formats (hformats : c.formats.IsProper) {schemas : List Schema}
    {p p' : Probes} {answers : List Bool} (h : Answers c d schemas p answers p')
    (hschemas : ∀ x ∈ schemas, x.Within Keywords.IsSeparate) :
    List.Forall₂ (fun schema answer => answer = true ↔ ∃ f, c.formats.get? f.name = some f ∧
      (f.template d).isIdentity = false ∧ schema.HasFormat f.name) schemas answers := by
  induction h with
  | nil => exact .nil
  | bool _ ih =>
    exact .cons (by simp [Schema.HasFormat.not_bool]) (ih (List.forall_mem_cons.1 hschemas).2)
  -- there are no references to ask about
  | settled | opened | probed => cases (List.forall_mem_cons.1 hschemas).1
  | @inline k o rest p q p' b inner bs outlined testable inside answer more ih ih' =>
    obtain ⟨hk, hrest⟩ := List.forall_mem_cons.1 hschemas
    obtain ⟨depth, houtline⟩ := outlined
    have shows := Compiler.outline_shows hformats hk houtline
    refine .cons ?_ (ih' hrest)
    rw [answer, ← shows.converts_iff, ← exists_mem_iff (ih shows.inside)]
    simp

/-- Values of a schema without references are converted if and only if their type holds text of a
registered format that changes them, where listed values are no objects or arrays and what an `allOf`
is merged from declares nothing twice. -/
theorem convert?_isSome_iff_hasSpan {config : Config} (hconfig : Registry.ofConfig config = .ok c.formats)
    {schema : Schema} (hschema : schema.Within Keywords.IsSeparate) {value type : Code}
    {converted : Option Code} {s s' t t' : Progress} (htype : c.schemaType schema s = .ok (type, s'))
    (hconvert : c.convert? d schema value t = .ok (converted, t')) :
    converted.isSome = true ↔ ∃ f, c.formats.get? f.name = some f ∧
      (f.template d).isIdentity = false ∧ type.HasSpan f.origin := by
  have hformats := Registry.ofConfig_isProper hconfig
  have hanswers :=
    (Compiler.convertTo_answers hconvert).changing_formats hformats (by simpa using hschema)
  rw [(List.forall₂_cons.1 hanswers).1]
  have hshows (f : Format) : type.HasSpan f.origin ↔ schema.HasFormat f.name :=
    Compiler.schemaType_hasSpan hformats schema s type s' htype
  simp only [hshows]

/-- The days of a log, put together with marks that are links or their number. -/
def markedDays : Schema :=
  .inline {
    allOf := [.inline {
      properties := [("days", .inline { items := some (.inline { format := some "date-time" }) })] }]
    properties := [("marks", .inline { oneOf := [.inline { type := some .number },
      .inline { type := some .array, items := some (.inline { format := some "uri" }) }] })] }

theorem markedDays_isSeparate : markedDays.Within Keywords.IsSeparate := by
  simp [markedDays, Schema.Within.inline_iff, Keywords.isSeparate_iff, Schema.flattened_inline,
    Keywords.children, Keywords.memberSchemas, Keywords.furtherSchemas, Keywords.isLiteral,
    Members.names]

/-- The days and the links are dates and locations in the type, so there is something to parse. -/
theorem convert?_isSome_iff_hasSpan_markedDays :
    let c : Compiler := {
      document := { raw := .null, spec := default }
      formats := Registry.builtin "./runtime" }
    ∃ converted type s t, c.schemaType markedDays {} = .ok (type, s) ∧
      c.convert? .parse markedDays "value" {} = .ok (converted, t) ∧ converted.isSome = true ∧
        ∃ f, c.formats.get? f.name = some f ∧ (f.template .parse).isIdentity = false ∧
          type.HasSpan f.origin := by
  intro c
  obtain ⟨⟨type, s⟩, htype, _⟩ := Except.eq_ok_of_any
    (show (c.schemaType markedDays {}).toOption.any (fun _ => true) = true by decide +kernel)
  obtain ⟨⟨converted, t⟩, hconverted, hsome⟩ := Except.eq_ok_of_any
    (show (c.convert? .parse markedDays "value" {}).toOption.any (·.1.isSome) = true by
      decide +kernel)
  have hconfig : Registry.ofConfig { runtimeModule := "./runtime" } = .ok c.formats := rfl
  exact ⟨converted, type, s, t, htype, hconverted, hsome,
    (convert?_isSome_iff_hasSpan hconfig markedDays_isSeparate htype hconverted).1 hsome⟩

end

end OpenApi

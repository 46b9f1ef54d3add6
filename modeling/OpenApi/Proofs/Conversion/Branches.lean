import OpenApi.Proofs.Code.Dispatch
import OpenApi.Proofs.Conversion.Outline
import OpenApi.Proofs.Types.Formats

/-!
Reading a value of a union without discriminator. What a branch says about the kinds of its values is
read off the branch alone (`DirectSchema.Admits`); the compiler folds all branches into one record and
writes its tests in an order of its own. Still each kind is tested for if and only if a branch admits it,
and a string is read by the formats in the order of the branches (`convertUnion_tells`).
-/

namespace OpenApi

/-! ## Branches -/

/-- The kind of the values of a schema object that is put together from no others: that of its type, or
without a type that of the keywords which say anything about it. -/
def Keywords.kind? {σ : Type} (k : Keywords σ) : Option ValueKind :=
  match k.type with
  | some .object => some .object
  | some .array => some .array
  | some .null => some .null
  | some .integer | some .number => some .number
  | some .boolean => some .boolean
  | some .string => some .string
  | some (.unknown _) => none
  | none =>
    if k.isObjectLike then some .object
    else if k.items.isSome then some .array
    else if k.format.isSome then some .string
    else none

namespace DirectSchema

/-- The branch has values of a kind. A branch that takes any value counts as one of no kind. -/
def Admits (kind : ValueKind) : DirectSchema → Prop
  | .bool _ => False
  | .inline k => k.kind? = some kind ∨ kind = .null ∧ k.isNullable = true

/-- The branch takes any value. -/
def TakesAny : DirectSchema → Prop
  | .bool accepts => accepts = true
  | .inline k => k.type = none ∧ k.kind? = none

/-- The format of the strings of a branch. Listed strings stand for themselves. -/
def format? (formats : Registry) : DirectSchema → Option Format
  | .bool _ => none
  | .inline k =>
    if k.kind? = some .string ∧ k.isLiteral = false then k.format.bind formats.get? else none

/-- The format that the strings of a branch are read by, if reading changes them. -/
def reader? (formats : Registry) (branch : DirectSchema) : Option Format :=
  (branch.format? formats).filter fun f => !f.parse.isIdentity

/-- The branch has strings that stay as they are when they are read. -/
def AdmitsPlain (formats : Registry) (branch : DirectSchema) : Prop :=
  branch.Admits .string ∧ branch.reader? formats = none

variable {formats : Registry} {branch : DirectSchema}

theorem admits_of_format? {format : Format} (h : branch.format? formats = some format) :
    branch.Admits .string := by
  cases branch with
  | bool => cases h
  | inline k =>
    rw [format?] at h
    split at h
    case isTrue hstring => exact .inl hstring.1
    case isFalse => cases h

end DirectSchema

/-! ## Shapes -/

namespace UnionShapes

/-- The shapes have a branch for values of a kind. -/
def admits (shapes : UnionShapes) : ValueKind → Bool
  | .object => !shapes.objects.isEmpty
  | .array => !shapes.arrays.isEmpty
  | .null => shapes.null
  | .number => shapes.number
  | .boolean => shapes.boolean
  | .string => shapes.plainString || !shapes.formats.isEmpty
  | .undefined | .bigint | .symbol | .function => false

/-- The shapes `after` are `before` with one more branch. -/
structure Gains (registry : Registry) (before after : UnionShapes) (branch : DirectSchema) :
    Prop where
  admits : ∀ kind, after.admits kind = true ↔ before.admits kind = true ∨ branch.Admits kind
  formats : after.formats = before.formats ++ (branch.format? registry).toList
  plainString : after.plainString = true ↔
    before.plainString = true ∨ branch.Admits .string ∧ branch.format? registry = none
  any : after.any = true ↔ before.any = true ∨ branch.TakesAny

section

variable {doc : Document} {formats : Registry} {shapes shapes' : UnionShapes} {branch : Schema}
  {k : Keywords Schema}

/-- A branch whose values are no strings. -/
theorem Gains.of_kind (kind : ValueKind) (hkind : k.kind? = some kind) (hne : kind ≠ .string)
    (hadmits : ∀ other, shapes'.admits other = true ↔
      shapes.admits other = true ∨ kind = other ∨ other = .null ∧ k.isNullable = true)
    (hformats : shapes'.formats = shapes.formats)
    (hplain : shapes'.plainString = shapes.plainString) (hany : shapes'.any = shapes.any) :
    Gains formats shapes shapes' (.inline k) where
  admits other := by rw [hadmits, DirectSchema.Admits, hkind, Option.some_inj]
  formats := by simp [hformats, DirectSchema.format?, hkind, hne]
  plainString := by simp [hplain, DirectSchema.Admits, hkind, hne]
  any := by simp [hany, DirectSchema.TakesAny, hkind]

theorem addString_gains (hkind : k.kind? = some .string)
    (h : ({ shapes with null := shapes.null || k.isNullable }).addString formats k = .ok shapes') :
    Gains formats shapes shapes' (.inline k) := by
  -- strings without a format and listed strings come to the same
  have plain (hnone : (DirectSchema.inline k).format? formats = none) :
      Gains formats shapes
        { shapes with null := shapes.null || k.isNullable, plainString := true } (.inline k) := by
    refine ⟨fun kind => ?_, by simp [hnone], ?_, by simp [DirectSchema.TakesAny, hkind]⟩
    · cases kind <;> simp [admits, DirectSchema.Admits, hkind]
    · simp [hnone, DirectSchema.Admits, hkind]
  unfold addString at h
  split at h
  case h_1 hformat =>
    cases h
    exact plain (by simp [DirectSchema.format?, hformat])
  case h_2 name hformat =>
    split at h
    case isTrue hliteral =>
      cases h
      exact plain (by simp [DirectSchema.format?, hliteral])
    case isFalse hliteral =>
      obtain ⟨format, hrequire, h⟩ := Except.bind_eq_ok.1 h
      cases h
      have hsome : (DirectSchema.inline k).format? formats = some format := by
        simp [DirectSchema.format?, hkind, hliteral, hformat, Registry.require_eq_ok hrequire]
      refine ⟨fun kind => ?_, by simp [hsome], by simp [hsome], by
        simp [DirectSchema.TakesAny, hkind]⟩
      cases kind <;> simp [admits, DirectSchema.Admits, hkind]

theorem addKeywords_gains (h : shapes.addKeywords formats branch k = .ok shapes') :
    Gains formats shapes shapes' (.inline k) := by
  unfold addKeywords at h
  split at h
  · cases h
  dsimp only at h
  split at h
  case h_8 => cases h
  -- only strings have a format to be looked up; all others add their kind and nothing else
  case h_7 htype => exact addString_gains (by simp [Keywords.kind?, htype]) h
  case h_9 htype =>
    split at h
    case isTrue hobject =>
      cases h
      refine .of_kind .object (by simp [Keywords.kind?, htype, hobject]) nofun
        (fun other => ?_) rfl rfl rfl
      cases other <;> simp [admits, addObject]
    case isFalse hobject =>
    split at h
    case isTrue hitems =>
      cases h
      refine .of_kind .array (by simp [Keywords.kind?, htype, hobject, hitems]) nofun
        (fun other => ?_) rfl rfl rfl
      cases other <;> simp [admits, addArray]
    case isFalse hitems =>
    split at h
    case isTrue hformat =>
      exact addString_gains (by simp [Keywords.kind?, htype, hobject, hitems, hformat]) h
    case isFalse hformat =>
      cases h
      have hnone : k.kind? = none := by simp [Keywords.kind?, htype, hobject, hitems, hformat]
      refine ⟨fun kind => ?_, by simp [DirectSchema.format?, hnone], by
        simp [DirectSchema.Admits, hnone], by simp [DirectSchema.TakesAny, htype, hnone]⟩
      cases kind <;> simp [admits, DirectSchema.Admits, hnone]
  all_goals
    rename_i htype
    cases h
    refine .of_kind _ (by rw [Keywords.kind?, htype]) (by decide) (fun other => ?_) rfl rfl rfl
    cases other <;> simp [admits, addObject, addArray]

theorem add_gains (h : add doc formats shapes branch = .ok shapes') : ∃ target,
    doc.deref .schema branch = .ok target ∧ Gains formats shapes shapes' target := by
  obtain ⟨target, htarget, h⟩ := Except.bind_eq_ok.1 h
  refine ⟨target, htarget, ?_⟩
  cases target with
  | inline k => exact addKeywords_gains h
  | bool accepts =>
    refine ⟨fun kind => ?_, ?_, ?_, ?_⟩
    all_goals cases accepts <;> cases h <;>
      simp [DirectSchema.Admits, DirectSchema.format?, DirectSchema.TakesAny, admits]

end

/-- The shapes are those of the branches. -/
structure Sorts (registry : Registry) (shapes : UnionShapes) (branches : List DirectSchema) :
    Prop where
  admits : ∀ kind, shapes.admits kind = true ↔ ∃ branch ∈ branches, branch.Admits kind
  formats : shapes.formats = branches.filterMap (·.format? registry)
  plainString : shapes.plainString = true ↔
    ∃ branch ∈ branches, branch.Admits .string ∧ branch.format? registry = none
  any : shapes.any = true ↔ ∃ branch ∈ branches, branch.TakesAny

namespace Sorts

variable {doc : Document} {formats : Registry} {shapes shapes' : UnionShapes}
  {branches : List DirectSchema}

theorem nil : Sorts formats {} [] where
  admits kind := by cases kind <;> simp [UnionShapes.admits]
  formats := rfl
  plainString := by simp
  any := by simp

theorem gains {branch : DirectSchema} (h : Sorts formats shapes branches)
    (hgains : Gains formats shapes shapes' branch) : Sorts formats shapes' (branches ++ [branch]) where
  admits kind := by
    rw [hgains.admits, h.admits]
    simp [or_and_right, exists_or]
  formats := by
    rw [hgains.formats, h.formats, List.filterMap_append]
    cases hformat : branch.format? formats <;> simp [hformat]
  plainString := by
    rw [hgains.plainString, h.plainString]
    simp [or_and_right, exists_or]
  any := by
    rw [hgains.any, h.any]
    simp [or_and_right, exists_or]

theorem foldlM_add {nodes : List Schema} (h : Sorts formats shapes branches)
    (hadd : nodes.foldlM (UnionShapes.add doc formats) shapes = .ok shapes') :
    ∃ more, List.Forall₂ (fun node branch => doc.deref .schema node = .ok branch) nodes more ∧
      Sorts formats shapes' (branches ++ more) := by
  -- `branches` are those that the shapes have taken in so far
  induction nodes generalizing shapes branches with
  | nil =>
    cases hadd
    exact ⟨[], .nil, by simpa using h⟩
  | cons node rest ih =>
    rw [List.foldlM_cons] at hadd
    obtain ⟨shapes₁, hstep, hadd⟩ := Except.bind_eq_ok.1 hadd
    obtain ⟨branch, hbranch, hgains⟩ := add_gains hstep
    obtain ⟨more, hmore, hsorts⟩ := ih (h.gains hgains) hadd
    exact ⟨branch :: more, .cons hbranch hmore, by simpa using hsorts⟩

theorem changingFormats_eq (h : Sorts formats shapes branches) :
    Compiler.changingFormats .parse shapes = branches.filterMap (·.reader? formats) := by
  rw [Compiler.changingFormats, h.formats, List.filter_filterMap]
  rfl

/-- Some strings stay as they are if a branch has no format, or one that does not change them. -/
theorem plain_iff (h : Sorts formats shapes branches) :
    (shapes.plainString ||
        (Compiler.changingFormats .parse shapes).length < shapes.formats.length) = true ↔
      ∃ branch ∈ branches, branch.AdmitsPlain formats := by
  have hunchanged : (Compiler.changingFormats .parse shapes).length < shapes.formats.length ↔
      ∃ branch ∈ branches, ∃ f, branch.format? formats = some f ∧ f.parse.isIdentity = true := by
    rw [Compiler.changingFormats, List.length_filter_lt_length_iff_exists, h.formats]
    -- some format has been filtered out, and it is that of a branch
    simp only [List.mem_filterMap, Format.template, Bool.not_eq_true, Bool.not_eq_false']
    constructor
    · rintro ⟨f, ⟨branch, hbranch, hformat⟩, hidentity⟩
      exact ⟨branch, hbranch, f, hformat, hidentity⟩
    · rintro ⟨branch, hbranch, f, hformat, hidentity⟩
      exact ⟨f, ⟨branch, hbranch, hformat⟩, hidentity⟩
  rw [Bool.or_eq_true, decide_eq_true_iff, h.plainString, hunchanged, ← exists_or]
  refine exists_congr fun branch => ?_
  rw [← and_or_left, DirectSchema.AdmitsPlain, DirectSchema.reader?]
  cases hformat : branch.format? formats with
  | none => simp
  | some f => simp [DirectSchema.admits_of_format? hformat]

end Sorts

end UnionShapes

/-! ## Statements -/

namespace Compiler

variable {c : Compiler} {shapes : UnionShapes} {value : Code}

/-- The statement for the last resort of a union without a branch that takes any value. -/
def noBranch : Code := .malformed "data" "" (Text.quoted "value matches no union branch")

/-- The statement for the values of a kind, where `object` and `array` are the conversions of the
branches for objects and for arrays. -/
def unionClause (shapes : UnionShapes) (object array : Option Code) (value : Code) :
    ValueKind → Clause
  | .object => .returns .isRecord (object.getD value)
  | .array => .returns .isArray (array.getD value)
  | .null => .returns .isNull "null"
  | .string =>
    .tries (.hasType "string")
      ((changingFormats .parse shapes).map fun format => format.convertCode .parse value)
      (if shapes.plainString || (changingFormats .parse shapes).length < shapes.formats.length then
        some value else none)
  | kind => .returns (.hasType kind.typeName) value

/-- The kinds that a union is tested for, in order. -/
def testedKinds (shapes : UnionShapes) : List ValueKind :=
  [.object, .array, .null, .number, .boolean, .string].filter shapes.admits

/-- The statements of a union in the order in which they are written. -/
def unionChain (shapes : UnionShapes) (object array : Option Code) (value : Code) : Chain :=
  .ofKinds (testedKinds shapes) (unionClause shapes object array value)
    (if shapes.any then value.returned else noBranch)

theorem mem_testedKinds {kind : ValueKind} :
    kind ∈ testedKinds shapes ↔ shapes.admits kind = true := by
  refine ⟨fun h => (List.mem_filter.1 h).2, fun h => List.mem_filter.2 ⟨?_, h⟩⟩
  cases kind <;> first | decide | cases h

section

variable {object array : Option Code} {kind : ValueKind}

theorem unionClause_test (h : shapes.admits kind = true) :
    kind.test? = some (unionClause shapes object array value kind).test := by
  cases kind <;> first | rfl | cases h

theorem first?_unionChain : (unionChain shapes object array value).first? kind =
    if shapes.admits kind then some (unionClause shapes object array value kind) else none := by
  rw [unionChain, Chain.first?_ofKinds fun kind hkind => unionClause_test (mem_testedKinds.1 hkind)]
  simp only [mem_testedKinds]

theorem answer?_unionChain {works : Code → Bool} :
    (unionChain shapes object array value).answer? works kind =
      if shapes.admits kind then (unionClause shapes object array value kind).answer? works
      else none := by
  rw [unionChain, Chain.answer?_ofKinds fun kind hkind => unionClause_test (mem_testedKinds.1 hkind)]
  simp only [mem_testedKinds]

end

theorem convertFormat_eq {format : Format} (h : format.parse.isIdentity = false) :
    Ensures (convertFormat .parse format value) (· = some (format.convertCode .parse value)) := by
  unfold convertFormat
  rw [if_neg (by simpa [Format.template] using h)]
  exact .bind_any fun _ => .pure rfl

theorem parseFormats_eq {formats : List Format} (h : ∀ f ∈ formats, f.parse.isIdentity = false) :
    Ensures (parseFormats value formats) fun attempts =>
      attempts = (formats.map fun format => format.convertCode .parse value).map Clause.attempt := by
  refine (Ensures.mapM (R := fun format attempt =>
    attempt = Clause.attempt (format.convertCode .parse value)) fun format hformat => ?_).mono
      fun attempts hattempts => ?_
  · refine .bind (convertFormat_eq (h format hformat)) ?_
    rintro _ rfl
    exact .pure rfl
  · induction hattempts with
    | nil => rfl
    | cons hfirst _ ih =>
      obtain ⟨_, hrest⟩ := List.forall_mem_cons.1 h
      rw [List.map_cons, List.map_cons, hfirst, ih hrest]

theorem unionOthers_eq :
    Ensures (unionOthers shapes value) (· = if shapes.any then value.returned else noBranch) := by
  unfold unionOthers
  refine .ite_of (fun hany => .pure (by rw [if_pos hany])) fun hany => ?_
  rw [if_neg hany]
  exact .map _ (Compile.throwMalformed_code _ _ _)

/-- There is something to do for strings if they are read by a format, or stay as they are. -/
theorem admits_string : shapes.admits .string =
    (!(changingFormats .parse shapes).isEmpty || shapes.plainString ||
      (changingFormats .parse shapes).length < shapes.formats.length) := by
  rw [UnionShapes.admits]
  cases hformats : shapes.formats with
  | nil => simp [changingFormats, hformats]
  | cons format rest => cases changingFormats .parse shapes <;> simp

theorem unionStrings_eq (object array : Option Code) :
    Ensures (unionStrings .parse shapes value) (· = if shapes.admits .string then
      [(unionClause shapes object array value .string).code value] else []) := by
  unfold unionStrings
  refine .bind (parseFormats_eq fun f hf => ?_) ?_
  · simpa [Format.template] using (mem_changingFormats.1 hf).2
  rintro _ rfl
  refine .pure ?_
  rw [admits_string, Bool.or_assoc, unionClause, Clause.code]
  generalize (shapes.plainString || _) = isPlain
  cases changingFormats .parse shapes <;> cases isPlain <;> rfl

theorem unionStatements_eq (object array : Option Code) :
    Ensures (unionStatements .parse shapes object array value) fun statements =>
      (Code.join " " statements).immediate = (unionChain shapes object array value).code value := by
  -- the compiler asks for one kind after the other; the chain filters the list of the kinds
  have given (kind : ValueKind) (rest : List ValueKind) (code : ValueKind → Code) :
      ((kind :: rest).filter shapes.admits).map code =
        (if shapes.admits kind then [code kind] else []) ++ (rest.filter shapes.admits).map code := by
    rw [List.filter_cons]
    split <;> rfl
  unfold unionStatements
  refine .bind (P := (· = [])) (.pure rfl) ?_
  rintro _ rfl
  refine .bind (unionStrings_eq object array) ?_
  rintro _ rfl
  refine .bind unionOthers_eq ?_
  rintro _ rfl
  refine .pure ?_
  rw [unionChain, testedKinds, Chain.ofKinds, Chain.code, List.map_map]
  simp only [given, List.filter_nil, List.map_nil, List.append_nil, List.nil_append, List.append_assoc]
  rfl

end Compiler

/-! ## Unions -/

/-- The chain tells the values of the branches apart. -/
structure Chain.Tells (chain : Chain) (formats : Registry) (branches : List DirectSchema)
    (value : Code) : Prop where
  /-- a kind is tested for if and only if a branch admits it -/
  tested : ∀ kind test, kind.test? = some test →
    ((∃ clause ∈ chain.clauses, clause.test = test) ↔ ∃ branch ∈ branches, branch.Admits kind)
  /-- the test for a kind is the first that values of the kind pass -/
  first : ∀ kind, (∃ branch ∈ branches, branch.Admits kind) →
    (chain.first? kind).map Clause.test = kind.test?
  /-- null, numbers and booleans that a branch admits stay as they are -/
  scalars : ∀ kind, kind = .null ∨ kind = .number ∨ kind = .boolean →
    (∃ branch ∈ branches, branch.Admits kind) → ∀ works,
      chain.answer? works kind = some (if kind = .null then Code.site "null" else value)
  /-- strings are read by the formats in order; those that no format reads stay as they are -/
  plain : (∃ branch ∈ branches, branch.AdmitsPlain formats) → ∀ works,
    chain.answer? works .string = some (((branches.filterMap (·.reader? formats)).map
      fun format => format.convertCode .parse value).find? works |>.getD value)
  /-- without a branch for strings that stay as they are, the others get to the last statement -/
  read : (¬∃ branch ∈ branches, branch.AdmitsPlain formats) → ∀ works,
    chain.answer? works .string = ((branches.filterMap (·.reader? formats)).map
      fun format => format.convertCode .parse value).find? works
  /-- values of a kind that no branch admits get to the last statement -/
  others : ∀ kind, (¬∃ branch ∈ branches, branch.Admits kind) → ∀ works,
    chain.answer? works kind = none
  /-- the last statement returns the value if a branch takes any -/
  any : (∃ branch ∈ branches, branch.TakesAny) → chain.last = value.returned
  /-- the last statement reports the value otherwise -/
  malformed : (¬∃ branch ∈ branches, branch.TakesAny) →
    chain.last = .malformed "data" "" (Text.quoted "value matches no union branch")

namespace UnionShapes.Sorts

variable {formats : Registry} {shapes : UnionShapes} {branches : List DirectSchema}

theorem tells (h : shapes.Sorts formats branches) (object array : Option Code) (value : Code) :
    (Compiler.unionChain shapes object array value).Tells formats branches value where
  tested kind test htest := by
    rw [← h.admits, ← Compiler.mem_testedKinds]
    constructor
    · rintro ⟨clause, hclause, rfl⟩
      -- a statement that asks the question for `kind` is there for no other kind
      obtain ⟨other, hother, rfl⟩ := List.mem_map.1 hclause
      rwa [ValueKind.eq_of_test? htest
        (Compiler.unionClause_test (Compiler.mem_testedKinds.1 hother))]
    · intro hkind
      refine ⟨_, List.mem_map_of_mem hkind, ?_⟩
      rw [Compiler.unionClause_test (Compiler.mem_testedKinds.1 hkind)] at htest
      exact Option.some_inj.1 htest
  first kind hkind := by
    have hkind := (h.admits kind).2 hkind
    rw [Compiler.first?_unionChain, if_pos hkind, Compiler.unionClause_test hkind]
    rfl
  scalars kind hscalar hkind works := by
    rw [Compiler.answer?_unionChain, if_pos ((h.admits kind).2 hkind)]
    rcases hscalar with rfl | rfl | rfl <;> rfl
  plain hplain works := by
    obtain ⟨branch, hbranch, hstring⟩ := hplain
    rw [Compiler.answer?_unionChain, if_pos ((h.admits _).2 ⟨branch, hbranch, hstring.1⟩)]
    rw [Compiler.unionClause, if_pos (h.plain_iff.2 ⟨branch, hbranch, hstring⟩), h.changingFormats_eq]
    simp [Clause.answer?]
  read hplain works := by
    rw [Compiler.answer?_unionChain, Compiler.unionClause, if_neg (mt h.plain_iff.1 hplain),
      ← h.changingFormats_eq]
    split
    case isTrue => simp [Clause.answer?]
    case isFalse hstring =>
      -- there are no strings at all, and so there is nothing to read them by
      rw [Compiler.admits_string] at hstring
      have hnone : Compiler.changingFormats .parse shapes = [] := by simp_all
      rw [hnone]
      rfl
  others kind hkind works := by
    rw [Compiler.answer?_unionChain, if_neg (mt (h.admits kind).1 hkind)]
  any hany := if_pos (h.any.2 hany)
  malformed hany := if_neg (mt h.any.1 hany)

end UnionShapes.Sorts

/-- A union without discriminator that has anything to parse is a chain that tells the values of its
branches apart, references followed. -/
theorem Compiler.convertUnion_tells {c : Compiler} {convert : Convert} {nodes : List Schema}
    {value code : Code} {s s' : Progress}
    (h : c.convertUnion .parse convert nodes value s = .ok (some code, s')) :
    ∃ (branches : List DirectSchema) (chain : Chain),
      List.Forall₂ (fun node branch => c.document.deref .schema node = .ok branch) nodes branches ∧
      code = chain.code value ∧ chain.Tells c.formats branches value := by
  have result : Ensures (c.convertUnion .parse convert nodes value) fun converted =>
      ∀ code ∈ converted, ∃ (branches : List DirectSchema) (chain : Chain),
        List.Forall₂ (fun node branch => c.document.deref .schema node = .ok branch) nodes branches ∧
        code = chain.code value ∧ chain.Tells c.formats branches value := by
    refine .bind_read fun shapes hshapes => ?_
    obtain ⟨branches, hbranches, hsorts⟩ := UnionShapes.Sorts.nil.foldlM_add hshapes
    refine .ite (.bind (P := fun _ => False) (.throw _) fun _ h => h.elim)
      (.bind_any fun (object, array) => .ite (.pure nofun) ?_)
    refine .bind (unionStatements_eq object array) fun statements hcode => .pure ?_
    rintro code ⟨⟩
    exact ⟨branches, _, hbranches, hcode, hsorts.tells object array value⟩
  exact result s (some code) s' h code rfl

/-- What moments are. -/
def moments : Compiler where
  document :=
    { raw := .object [("components", .object [("schemas", .object [("Moment", .object [
        ("type", .string "string"), ("format", .string "date-time")])])])]
      spec := default }
  formats := Registry.builtin "./runtime"

/-- A moment, a link, a number that may be null, or a list. -/
def moment : List Schema :=
  [.ref "#/components/schemas/Moment", .inline { type := some .string, format := some "uri" },
    .inline { type := some .integer, nullable := some true }, .inline { items := some (.bool true) }]

/-- Null has a test though no branch has it as its type. Booleans are malformed, and so are strings that
are no moment and no link. -/
theorem Compiler.convertUnion_tells_moment : ∃ code s',
    moments.convertUnion .parse (moments.convertTo .parse 4) moment "x" {} = .ok (some code, s') ∧
    ∃ chain : Chain, code = chain.code "x" ∧ (chain.first? .null).map Clause.test = some .isNull ∧
      (∀ works, chain.answer? works .boolean = none) ∧
      chain.answer? (fun _ => false) .string = none ∧
      chain.last = .malformed "data" "" (Text.quoted "value matches no union branch") := by
  obtain ⟨⟨converted, s'⟩, hconverted, hsome⟩ := Except.eq_ok_of_any
    (show (moments.convertUnion .parse (moments.convertTo .parse 4) moment "x" {}).toOption.any
      (·.1.isSome) = true by decide +kernel)
  obtain ⟨code, rfl⟩ := Option.isSome_iff_exists.1 hsome
  obtain ⟨branches, chain, hbranches, hcode, htells⟩ := convertUnion_tells hconverted
  have hmoment : moments.document.deref .schema (.ref "#/components/schemas/Moment") =
      .ok (.inline { type := some .string, format := some "date-time" }) := by
    with_unfolding_all rfl
  obtain _ | ⟨htarget, _ | ⟨⟨⟩, _ | ⟨⟨⟩, _ | ⟨⟨⟩, ⟨⟩⟩⟩⟩⟩ := hbranches
  rw [hmoment] at htarget
  cases htarget
  refine ⟨code, s', hconverted, chain, hcode, htells.first .null ?_, htells.others .boolean ?_,
    ?_, htells.malformed ?_⟩
  · simp [DirectSchema.Admits, Keywords.isNullable]
  · simp [DirectSchema.Admits, Keywords.kind?, Keywords.isObjectLike]
  · rw [htells.read]
    · simp
    · have hreaders : (DirectSchema.reader? moments.formats (.inline
            { type := some .string, format := some "date-time" })).isSome = true ∧
          (DirectSchema.reader? moments.formats (.inline
            { type := some .string, format := some "uri" })).isSome = true := by
        decide +kernel
      simp only [Option.isSome_iff_ne_none] at hreaders
      simp [DirectSchema.AdmitsPlain, DirectSchema.Admits, Keywords.kind?, Keywords.isObjectLike,
        hreaders]
  · simp [DirectSchema.TakesAny, Keywords.kind?, Keywords.isObjectLike]

end OpenApi

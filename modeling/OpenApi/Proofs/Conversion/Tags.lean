import Mathlib.Data.List.Find
import OpenApi.Proofs.Code.Dispatch
import OpenApi.Proofs.Conversion.Walk
import OpenApi.Proofs.Document.Depth
import OpenApi.Proofs.Document.Distinct

/-!
The cases of a union with discriminator. Where a tag leads is said by the mapping, and by the names of the
branches that the mapping leaves out (`Discriminator.target?`). The compiler collects cases from both, and
drops a branch whose reference has a case already, whatever its tag. Still the first case of the
generated `switch` with a tag converts what the tag leads to, and no branch is without a case
(`convertDiscriminated_leads`).
-/

namespace OpenApi

/-! ## Where tags lead -/

/-- The tag of a branch that the mapping does not mention: the last segment of its reference. The
reference to the document as a whole has no segment, and its tag is empty. -/
def tagOf? (reference : String) : Option String :=
  (Pointer.lastSegment? reference).toOption.map fun segment => segment.getD ""

namespace Discriminator

/-- The tags of the mapping, with the references that they lead to. -/
def mapped (discriminator : Discriminator) : List (String × String) :=
  discriminator.mapping.map fun (tag, target) => (tag, Compiler.mappedReference target)

/-- The references that the mapping leads to. -/
def targets (discriminator : Discriminator) : List String := discriminator.mapped.map (·.2)

/-- The reference that a tag leads to: what the mapping says, or else the first of the branches that the
mapping does not lead to and that has the tag. -/
def target? (discriminator : Discriminator) (branches : List String) (tag : String) : Option String :=
  match discriminator.mapping.get? tag with
  | some target => some (Compiler.mappedReference target)
  | none => branches.find? fun branch =>
      branch ∉ discriminator.targets && tagOf? branch == some tag

end Discriminator

/-! ## Cases -/

theorem Members.get?_eq_find? {α : Type} (members : Members α) (name : String) :
    members.get? name = (members.find? (·.1 == name)).map (·.2) := by
  induction members with
  | nil => rfl
  | cons entry rest ih =>
    obtain ⟨other, value⟩ := entry
    by_cases hname : other = name
    · simp [get?, hname]
    · simpa [get?, List.lookup_cons, List.find?_cons, beq_false_of_ne hname,
        beq_false_of_ne (Ne.symm hname)] using ih

/-- The cases `added` are those of the branches that have none among `known`, each once. -/
structure AddsCases (known : List String) (branches : List String) (added : List (String × String)) :
    Prop where
  targets : added.map (·.2) = (branches.filter (· ∉ known)).eraseDups
  tagged : ∀ case ∈ added, tagOf? case.2 = some case.1

namespace AddsCases

variable {known branches : List String} {added : List (String × String)} {branch : String}

theorem skip (hknown : branch ∈ known) (h : AddsCases known branches added) :
    AddsCases known (branch :: branches) added where
  targets := by rw [h.targets, List.filter_cons_of_neg (by simpa using hknown)]
  tagged := h.tagged

theorem cons {tag : String} (hknown : branch ∉ known) (htag : tagOf? branch = some tag)
    (h : AddsCases (known ++ [branch]) branches added) :
    AddsCases known (branch :: branches) ((tag, branch) :: added) where
  targets := by
    -- from here on `branch` has a case, so that it is left out of the rest
    rw [List.map_cons, h.targets, List.filter_cons_of_pos (by simpa using hknown),
      List.eraseDups_cons, List.filter_filter]
    congr 3
    funext x
    simp [not_or, and_comm, beq_eq_decide]
  tagged := List.forall_mem_cons.2 ⟨htag, h.tagged⟩

/-- The first of the cases with a tag is that of the first of the branches that have it. -/
theorem find? (h : AddsCases known branches added) (tag : String) :
    (added.find? (·.1 == tag)).map (·.2) =
      branches.find? fun branch => branch ∉ known && tagOf? branch == some tag := by
  calc
    (added.find? (·.1 == tag)).map (·.2)
        = (added.find? fun case => tagOf? case.2 == some tag).map (·.2) := by
      congr 1
      refine List.find?_congr fun case hcase => ?_
      rw [h.tagged case hcase, Option.some_beq_some]
    _ = (added.map (·.2)).find? (tagOf? · == some tag) := by
      rw [List.find?_map]
      rfl
    _ = (branches.filter (· ∉ known)).find? (tagOf? · == some tag) := by
      rw [h.targets, List.find?_eraseDups]
    _ = branches.find? fun branch => branch ∉ known && tagOf? branch == some tag := by
      rw [List.find?_filter]
      simp [beq_eq_decide]

end AddsCases

theorem Compiler.discriminatorCases_adds {discriminator : Discriminator} {branches : List String}
    {cases : List (String × String)}
    (h : discriminatorCases discriminator.mapping (branches.map .ref) = .ok cases) :
    ∃ added, cases = discriminator.mapped ++ added ∧
      AddsCases discriminator.targets branches added := by
  rw [Discriminator.targets]
  change List.foldlM _ discriminator.mapped _ = Except.ok cases at h
  -- `known` are the cases that there are before the next branch
  generalize discriminator.mapped = known at h ⊢
  induction branches generalizing known with
  | nil =>
    cases h
    exact ⟨[], by simp, rfl, by simp⟩
  | cons branch rest ih =>
    obtain ⟨known', hstep, h⟩ := Except.bind_eq_ok.1 ((List.foldlM_cons ..).symm.trans h)
    dsimp only at hstep
    split at hstep
    case isTrue hmem =>
      cases hstep
      obtain ⟨added, hcases, hadded⟩ := ih known h
      exact ⟨added, hcases, hadded.skip (by simpa using hmem)⟩
    case isFalse hmem =>
      obtain ⟨tag, htag, hstep⟩ := Except.bind_eq_ok.1 hstep
      cases hstep
      obtain ⟨added, hcases, hadded⟩ := ih _ h
      rw [List.map_append] at hadded
      refine ⟨(tag.getD "", branch) :: added, ?_, hadded.cons (by simpa using hmem) ?_⟩
      · rw [hcases, List.append_assoc, List.singleton_append]
      · rw [tagOf?, Except.mapError_eq_ok.1 htag]
        rfl

/-- The references of the cases, by their tags. -/
theorem Discriminator.find?_cases {discriminator : Discriminator} {branches : List String}
    {added : List (String × String)} (h : AddsCases discriminator.targets branches added)
    (tag : String) :
    ((discriminator.mapped ++ added).find? (·.1 == tag)).map (·.2) =
      discriminator.target? branches tag := by
  have hmapped : (discriminator.mapped.find? (·.1 == tag)).map (·.2) =
      (discriminator.mapping.get? tag).map Compiler.mappedReference := by
    rw [mapped, List.find?_map, Members.get?_eq_find?, Option.map_map, Option.map_map]
    rfl
  rw [List.find?_append, target?]
  cases hget : discriminator.mapping.get? tag with
  | some target =>
    rw [hget, Option.map_some] at hmapped
    obtain ⟨case, hcase, htarget⟩ := Option.map_eq_some_iff.1 hmapped
    rw [hcase, Option.some_or, Option.map_some, htarget]
  | none =>
    -- no case of the mapping has the tag, so that the search goes on among the branches
    rw [hget, Option.map_none, Option.map_eq_none_iff] at hmapped
    rw [hmapped, Option.none_or, h.find?]

/-- A case of a union with discriminator, and its conversion. -/
structure TagCase where
  tag : String
  target : String
  converted : Option Code

/-- The cases are those of the mapping and, for each branch that is left then, one more. -/
structure Discriminator.Covers (discriminator : Discriminator) (branches : List String)
    (cases : List TagCase) : Prop where
  complete : ∀ branch ∈ branches, ∃ case ∈ cases, case.target = branch
  once : ∃ own added, cases = own ++ added ∧
    own.map (fun case => (case.tag, case.target)) = discriminator.mapped ∧
    (added.map TagCase.target).Nodup ∧
    ∀ case ∈ added, case.target ∈ branches ∧ case.target ∉ discriminator.targets

theorem AddsCases.covers {discriminator : Discriminator} {branches : List String}
    {added : List (String × String)} {cases : List TagCase}
    (h : AddsCases discriminator.targets branches added)
    (hcases : (cases.map fun case => (case.tag, case.target)) = discriminator.mapped ++ added) :
    discriminator.Covers branches cases := by
  have hadded (target : String) : target ∈ added.map (·.2) ↔
      target ∈ branches ∧ target ∉ discriminator.targets := by
    rw [h.targets, List.mem_eraseDups]
    simp
  have htargets : cases.map TagCase.target = discriminator.targets ++ added.map (·.2) := by
    rw [Discriminator.targets, ← List.map_append, ← hcases, List.map_map]
    rfl
  constructor
  case complete =>
    intro branch hbranch
    refine List.mem_map.1 ?_
    rw [htargets, List.mem_append, hadded]
    tauto
  case once =>
    obtain ⟨own, more, rfl, hown, hmore⟩ := List.map_eq_append_iff.1 hcases
    have hmore : more.map TagCase.target = added.map (·.2) := by
      rw [← hmore, List.map_map]
      rfl
    refine ⟨own, more, rfl, hown, ?_, fun case hcase => (hadded _).1 ?_⟩
    · rw [hmore, h.targets]
      exact List.nodup_eraseDups _
    · exact hmore ▸ List.mem_map_of_mem hcase

/-! ## Choices -/

/-- The choice leads each tag to the conversion of what it stands for. -/
structure Switch.Leads (choice : Switch) (discriminator : Discriminator) (branches : List String)
    (cases : List TagCase) (value : Code) : Prop where
  subject : choice.subject = value.parenthesized.member discriminator.propertyName
  /-- each case has an arm, in order, and there are no others -/
  arms : choice.arms = cases.map fun case => (case.tag, case.converted.getD value)
  /-- the first case with a tag that leads anywhere converts the value as its reference says -/
  found : ∀ tag target, discriminator.target? branches tag = some target →
    ∃ case, cases.find? (·.tag == tag) = some case ∧ case.target = target ∧
      choice.answer? tag = some (case.converted.getD value)
  /-- a tag that leads nowhere has no case -/
  missing : ∀ tag, discriminator.target? branches tag = none → tag ∉ choice.arms.map (·.1)
  default : choice.default = .malformed "data" discriminator.propertyName
    (Code.cat ["\"unknown discriminator value \" + String", choice.subject.parens]).render

namespace Compiler

/-- The targets of the cases are converted, one after the other. -/
inductive ConvertsCases (convert : Convert) (value : Code) :
    List TagCase → Progress → Progress → Prop
  | nil (s : Progress) : ConvertsCases convert value [] s s
  | cons {case : TagCase} {rest : List TagCase} {s s₁ s₂ : Progress}
      (h : convert (.ref case.target) value s = .ok (case.converted, s₁))
      (more : ConvertsCases convert value rest s₁ s₂) :
      ConvertsCases convert value (case :: rest) s s₂

theorem mapCases_converts {convert : Convert} {value : Code} {cases : List (String × String)}
    {converted : List (String × Option Code)} {s s' : Progress}
    (h : (cases.mapM fun (tag, reference) => return (tag, ← convert (.ref reference) value) :
      Compile (List (String × Option Code))) s = .ok (converted, s')) :
    ∃ tagged : List TagCase, (tagged.map fun case => (case.tag, case.target)) = cases ∧
      (tagged.map fun case => (case.tag, case.converted)) = converted ∧
      ConvertsCases convert value tagged s s' := by
  induction cases generalizing converted s with
  | nil =>
    cases h
    exact ⟨[], rfl, rfl, .nil _⟩
  | cons case rest ih =>
    obtain ⟨tag, target⟩ := case
    rw [List.mapM_cons] at h
    obtain ⟨_, s₁, hfirst, h⟩ := Compile.bind_eq_ok.1 h
    obtain ⟨first, _, hfirst, hpair⟩ := Compile.bind_eq_ok.1 hfirst
    cases hpair
    obtain ⟨others, s₂, hothers, h⟩ := Compile.bind_eq_ok.1 h
    cases h
    obtain ⟨tagged, rfl, rfl, hconverts⟩ := ih hothers
    exact ⟨⟨tag, target, first⟩ :: tagged, rfl, rfl, .cons hfirst hconverts⟩

/-- The choice by the tag of a value. -/
def tagSwitch (discriminator : Discriminator) (value : Code) (cases : List TagCase) : Switch :=
  let subject := value.parenthesized.member discriminator.propertyName
  { subject
    arms := cases.map fun case => (case.tag, case.converted.getD value)
    default := .malformed "data" discriminator.propertyName
      (Code.cat ["\"unknown discriminator value \" + String", subject.parens]).render }

theorem tagSwitch_leads {discriminator : Discriminator} {branches : List String}
    {added : List (String × String)} {cases : List TagCase}
    (h : AddsCases discriminator.targets branches added)
    (hcases : (cases.map fun case => (case.tag, case.target)) = discriminator.mapped ++ added)
    (value : Code) : (tagSwitch discriminator value cases).Leads discriminator branches cases value := by
  have htarget (tag : String) : (cases.find? (·.tag == tag)).map TagCase.target =
      discriminator.target? branches tag := by
    rw [← Discriminator.find?_cases h, ← hcases, List.find?_map, Option.map_map]
    rfl
  have hanswer (tag : String) : (tagSwitch discriminator value cases).answer? tag =
      (cases.find? (·.tag == tag)).map fun case => case.converted.getD value := by
    rw [Switch.answer?, tagSwitch, List.find?_map, Option.map_map]
    rfl
  refine ⟨rfl, rfl, fun tag target hsome => ?_, fun tag hnone => ?_, rfl⟩
  · rw [← htarget] at hsome
    obtain ⟨case, hcase, rfl⟩ := Option.map_eq_some_iff.1 hsome
    exact ⟨case, hcase, rfl, by rw [hanswer, hcase, Option.map_some]⟩
  · rw [← htarget, Option.map_eq_none_iff] at hnone
    rw [tagSwitch, List.map_map]
    intro hmem
    obtain ⟨case, hcase, htag⟩ := List.mem_map.1 hmem
    exact List.find?_eq_none.1 hnone case hcase (beq_iff_eq.2 htag)

/-- A union of references with a discriminator converts a value by the first case with its tag. The tag
has a case if and only if it leads anywhere, and the case converts the value as the reference says that
the tag leads to. There is nothing to convert if and only if no reference has anything to convert. -/
theorem convertDiscriminated_leads {convert : Convert} {branches : List String}
    {discriminator : Discriminator} {value : Code} {result : Option Code} {s s' : Progress}
    (h : convertDiscriminated convert (branches.map .ref) discriminator value s = .ok (result, s')) :
    ∃ (cases : List TagCase) (s₁ : Progress), ConvertsCases convert value cases s s₁ ∧
      discriminator.Covers branches cases ∧
      (result = none ↔ ∀ case ∈ cases, case.converted = none) ∧
      ∀ code, result = some code → ∃ choice : Switch, code = choice.code ∧
        choice.Leads discriminator branches cases value := by
  unfold convertDiscriminated at h
  cases hread : discriminatorCases discriminator.mapping (branches.map .ref) with
  | error e =>
    rw [hread] at h
    cases h
  | ok pairs =>
  rw [hread, Compile.bind_apply_of_ok (Compile.liftM_apply_ok pairs s)] at h
  obtain ⟨added, rfl, hadded⟩ := discriminatorCases_adds hread
  obtain ⟨_, s₁, hconverted, h⟩ := Compile.bind_eq_ok.1 h
  obtain ⟨cases, hcases, rfl, hconverts⟩ := mapCases_converts hconverted
  refine ⟨cases, s₁, hconverts, hadded.covers hcases, ?_⟩
  have hall : (cases.map fun case => (case.tag, case.converted)).all
      (fun case : String × Option Code => case.2.isNone) = true ↔
        ∀ case ∈ cases, case.converted = none := by simp
  split at h
  case isTrue hnone =>
    cases h
    exact ⟨by simpa using hall.1 hnone, nofun⟩
  case isFalse hsome =>
    obtain ⟨failure, s₂, hfailure, h⟩ := Compile.bind_eq_ok.1 h
    cases h
    refine ⟨by simpa using mt hall.2 hsome, ?_⟩
    rintro code ⟨⟩
    refine ⟨_, ?_, tagSwitch_leads hadded hcases value⟩
    have hdefault := Compile.throwMalformed_code _ _ _ s₁ failure _ hfailure
    simp only [Switch.code, tagSwitch, List.map_map, ← hdefault]
    rfl

/-- Which animals have a day of birth. -/
def animals : Compiler where
  document :=
    { raw := .object [("components", .object [("schemas", .object [
        ("Cat", .object [("properties", .object [("born", .object [
          ("type", .string "string"), ("format", .string "date-time")])])]),
        ("Dog", .object [])])])]
      spec := default }
  formats := Registry.builtin "./runtime"

/-- Kittens are cats, too. -/
def kinds : Discriminator where
  propertyName := "kind"
  mapping := [("cat", "#/components/schemas/Cat"), ("kitten", "Cat")]

/-- Dogs are told by the name of their schema, cats by that no more. -/
theorem convertDiscriminated_leads_animals :
    let branches := ["#/components/schemas/Cat", "#/components/schemas/Dog"]
    ∃ code s', convertDiscriminated (animals.convertTo .parse 4) (branches.map .ref) kinds "x" {} =
        .ok (some code, s') ∧
      ∃ (cases : List TagCase) (choice : Switch), code = choice.code ∧
        choice.subject = Code.member "x" "kind" ∧ "Cat" ∉ choice.arms.map (·.1) ∧
        (∃ case ∈ cases, case.target = "#/components/schemas/Cat" ∧
          choice.answer? "kitten" = some (case.converted.getD "x")) ∧
        ∃ case ∈ cases, case.target = "#/components/schemas/Dog" ∧
          choice.answer? "Dog" = some (case.converted.getD "x") := by
  intro branches
  obtain ⟨⟨converted, s'⟩, hconverted, hsome⟩ := Except.eq_ok_of_any
    (show (convertDiscriminated (animals.convertTo .parse 4) (branches.map .ref) kinds "x"
      {}).toOption.any (·.1.isSome) = true by decide +kernel)
  obtain ⟨code, rfl⟩ := Option.isSome_iff_exists.1 hsome
  obtain ⟨cases, _, _, _, _, hchoice⟩ := convertDiscriminated_leads hconverted
  obtain ⟨choice, hcode, hleads⟩ := hchoice code rfl
  obtain ⟨kitten, hkitten, hcat, hread⟩ :=
    hleads.found "kitten" "#/components/schemas/Cat" (by decide +kernel)
  obtain ⟨dog, hdog, hdog', hkept⟩ :=
    hleads.found "Dog" "#/components/schemas/Dog" (by decide +kernel)
  have hsubject : choice.subject = Code.member "x" "kind" :=
    hleads.subject.trans (by decide +kernel)
  refine ⟨code, s', hconverted, cases, choice, hcode, hsubject,
    hleads.missing "Cat" (by decide +kernel), ?_, ?_⟩
  · exact ⟨kitten, List.mem_of_find?_eq_some hkitten, hcat, hread⟩
  · exact ⟨dog, List.mem_of_find?_eq_some hdog, hdog', hkept⟩

end Compiler

end OpenApi

import Mathlib.Data.List.SplitBy
import OpenApi.Code.Lemmas
import OpenApi.Format.Template
import OpenApi.Proofs.Code.Lines

/-!
The normal form of generated code. Code is put together from texts with origins by operations that join
neighbours of one origin as they meet, and that may meet in any order. Whatever the operations are, the
fragments that come of them are the runs of one origin in the sequence of all characters that went in
(`Recipe.code_runs`): no character loses its origin, and how the texts were grouped on the way makes no
difference.
-/

namespace OpenApi

namespace Code

/-! ## Runs of one origin -/

/-- The fragment that some characters of one origin make, if there are any. -/
def ofRun? : List (Char × Origin) → Option Fragment
  | [] => none
  | (c, origin) :: rest => some ⟨String.ofList (c :: rest.map (·.1)), origin⟩

/-- The runs of one origin, each of which goes on for as long as it can. -/
def runs (chars : List (Char × Origin)) : List Fragment :=
  (chars.splitBy fun a b => a.2 == b.2).filterMap ofRun?

/-- No fragment is empty, and neighbours have different origins. -/
structure IsNormal (code : Code) : Prop where
  nonempty : ∀ f ∈ code.fragments, f.text ≠ ""
  alternating : code.fragments.IsChain fun f g => f.origin ≠ g.origin

theorem ofRun?_chars {f : Fragment} (h : f.text ≠ "") : ofRun? f.chars = some f := by
  obtain ⟨text, origin⟩ := f
  cases hchars : text.toList with
  | nil => exact absurd (String.toList_eq_nil_iff.1 hchars) h
  | cons c rest =>
    have htext : text = String.ofList (c :: rest) := by rw [← hchars, String.ofList_toList]
    simp [Fragment.chars, ofRun?, htext, Function.comp_def]

theorem isChain_chars (f : Fragment) : f.chars.IsChain fun a b => (a.2 == b.2) = true := by
  refine List.Pairwise.isChain (List.pairwise_map.2 ?_)
  exact List.pairwise_of_forall fun _ _ => beq_self_eq_true f.origin

/-- One run ends and another one begins where two fragments of different origins meet. -/
theorem chars_meet {f g : Fragment} (hf : f.text ≠ "") (hg : g.text ≠ "") (h : f.origin ≠ g.origin) :
    ∃ ha hb, ((f.chars.getLast ha).2 == (g.chars.head hb).2) = false := by
  have hne {f : Fragment} (hf : f.text ≠ "") : f.chars ≠ [] := by
    simpa [Fragment.chars] using hf
  refine ⟨hne hf, hne hg, ?_⟩
  simpa [Fragment.chars] using h

/-- Code in normal form is made of the runs of its characters. -/
theorem IsNormal.fragments_eq {code : Code} (h : code.IsNormal) :
    code.fragments = runs code.chars := by
  have hsplit : code.chars.splitBy (fun a b => a.2 == b.2) = code.fragments.map Fragment.chars := by
    -- no part is empty, each is of one origin, and the origin changes from each to the next
    refine List.splitBy_eq_iff.2 ⟨List.flatMap_def, ?_, ?_, ?_⟩
    · rintro hmem
      obtain ⟨f, hf, hchars⟩ := List.mem_map.1 hmem
      exact h.nonempty f hf (by simpa [Fragment.chars] using hchars)
    · rintro run hrun
      obtain ⟨f, _, rfl⟩ := List.mem_map.1 hrun
      exact isChain_chars f
    · refine (List.isChain_map _).2 (h.alternating.imp_of_mem_imp fun f g hf hg horigin => ?_)
      exact chars_meet (h.nonempty f hf) (h.nonempty g hg) horigin
  calc code.fragments
      = code.fragments.filterMap some := List.filterMap_some.symm
    _ = code.fragments.filterMap (ofRun? ∘ Fragment.chars) :=
      List.filterMap_congr fun f hf => (ofRun?_chars (h.nonempty f hf)).symm
    _ = (code.fragments.map Fragment.chars).filterMap ofRun? := (List.filterMap_map ..).symm
    _ = runs code.chars := by rw [runs, hsplit]

/-! ## The operations keep the normal form -/

theorem isNormal_cons {f : Fragment} {fs : List Fragment} : IsNormal ⟨f :: fs⟩ ↔
    f.text ≠ "" ∧ (∀ g ∈ fs.head?, f.origin ≠ g.origin) ∧ IsNormal ⟨fs⟩ := by
  constructor
  · rintro ⟨hne, halt⟩
    obtain ⟨hf, hfs⟩ := List.forall_mem_cons.1 hne
    obtain ⟨hhead, halt⟩ := List.isChain_cons.1 halt
    exact ⟨hf, hhead, hfs, halt⟩
  · rintro ⟨hf, hhead, hfs, halt⟩
    exact ⟨List.forall_mem_cons.2 ⟨hf, hfs⟩, List.isChain_cons.2 ⟨hhead, halt⟩⟩

theorem isNormal_empty : empty.IsNormal := ⟨List.forall_mem_nil _, .nil⟩

theorem isNormal_singleton {f : Fragment} (h : f.text ≠ "") : IsNormal ⟨[f]⟩ :=
  ⟨List.forall_mem_singleton.2 h, .singleton f⟩

/-- The first fragment may get longer, but its origin stays. -/
theorem origin_of_mem_head?_extend {g : Fragment} {fs : List Fragment} {f first : Fragment}
    (h : first ∈ (extend (g :: fs) f).head?) : first.origin = g.origin := by
  cases fs with
  | nil =>
    rw [extend] at h
    split at h
    · cases h; rfl
    · split at h
      · cases h; rfl
      · cases h; rfl
  | cons k fs => cases h; rfl

theorem IsNormal.extend {fs : List Fragment} (h : IsNormal ⟨fs⟩) (f : Fragment) :
    IsNormal ⟨extend fs f⟩ := by
  fun_induction Code.extend fs f with
  | case1 f hempty => exact h
  | case2 f hempty => exact isNormal_singleton (by simpa [String.isEmpty_iff] using hempty)
  | case3 last f hempty => exact h
  | case4 last f hempty horigin =>
    have hlast : last.text ≠ "" := (isNormal_cons.1 h).1
    exact isNormal_singleton (by simp [hlast])
  | case5 last f hempty horigin =>
    have hf : f.text ≠ "" := by simpa [String.isEmpty_iff] using hempty
    have hmeet : ∀ g ∈ [f].head?, last.origin ≠ g.origin := by simpa using horigin
    exact isNormal_cons.2 ⟨(isNormal_cons.1 h).1, hmeet, isNormal_singleton hf⟩
  | case6 g k rest f ih =>
    obtain ⟨hg, hmeet, hrest⟩ := isNormal_cons.1 h
    -- what stands behind `g` may be longer now, but it still meets `g` with another origin
    refine isNormal_cons.2 ⟨hg, fun first hfirst => ?_, ih hrest⟩
    rw [origin_of_mem_head?_extend hfirst]
    exact hmeet k rfl

theorem isNormal_tagged (text : String) (origin : Origin) : (tagged text origin).IsNormal :=
  isNormal_empty.extend _

variable {a : Code}

/-- Whatever is appended, it is put in normal form on the way. -/
theorem IsNormal.append (h : a.IsNormal) (b : Code) : (a ++ b).IsNormal := by
  obtain ⟨fs⟩ := a
  obtain ⟨gs⟩ := b
  show IsNormal ⟨gs.foldl Code.extend fs⟩
  induction gs generalizing fs with
  | nil => exact h
  | cons g gs ih => exact ih _ (h.extend g)

theorem isNormal_cat (parts : List Code) : (cat parts).IsNormal :=
  List.foldlRecOn parts append isNormal_empty fun _ hcode part _ => hcode.append part

theorem isNormal_join {parts : List Code} (h : ∀ part ∈ parts, part.IsNormal) (separator : String)
    (origin : Origin) : (join separator parts origin).IsNormal :=
  -- only the first part is taken as it is; all that comes after it is appended
  join_preserves isNormal_empty h fun _ part hcode _ => (hcode.append _).append part

theorem IsNormal.parenthesized (h : a.IsNormal) (origin : Origin) :
    (a.parenthesized origin).IsNormal := by
  unfold Code.parenthesized
  split
  · exact h
  · exact isNormal_cat _

theorem IsNormal.arrowBody (h : a.IsNormal) (origin : Origin) : (a.arrowBody origin).IsNormal := by
  unfold Code.arrowBody
  split
  · exact isNormal_cat _
  · exact h

theorem IsNormal.empty_append (h : a.IsNormal) : empty ++ a = a := by
  -- both sides are normal, and a normal form is settled by its characters
  have hchars : (empty ++ a).chars = a.chars := by simp
  have heq := (isNormal_empty.append a).fragments_eq
  rw [hchars, ← h.fragments_eq] at heq
  exact congrArg Code.mk heq

end Code

/-! ## Recipes -/

/-- How code is put together. Whatever an operation writes of its own has an origin that is given
with it; a value that is used more than once stands in the recipe more than once. -/
inductive Recipe where
  | empty
  | tagged (text : String) (origin : Origin)
  | push (code : Recipe) (text : String) (origin : Origin)
  | append (first second : Recipe)
  | join (separator : String) (parts : List Recipe) (origin : Origin)
  | cat (parts : List Recipe)
  | parenthesized (code : Recipe) (origin : Origin)
  | arrowBody (code : Recipe) (origin : Origin)
  | fill (template : Template) (value : Recipe) (origin : Origin)

/-- What a piece of a template puts in: its own text, or what the value was put together from. -/
def Template.Piece.inputs (value : List Fragment) (origin : Origin) : Piece → List Fragment
  | .text body => [⟨body, origin⟩]
  | .hole => value

namespace Recipe

mutual

/-- The code that comes of the operations. -/
def code : Recipe → Code
  | .empty => Code.empty
  | .tagged text origin => Code.tagged text origin
  | .push code text origin => code.code.push text origin
  | .append first second => first.code ++ second.code
  | .join separator parts origin => Code.join separator (codeOfAll parts) origin
  | .cat parts => Code.cat (codeOfAll parts)
  | .parenthesized code origin => code.code.parenthesized origin
  | .arrowBody code origin => code.code.arrowBody origin
  | .fill template value origin => template.apply value.code origin

/-- The code of each of some recipes. -/
def codeOfAll : List Recipe → List Code
  | [] => []
  | first :: rest => first.code :: codeOfAll rest

end

/-- Texts in parentheses of the given origin, if they need them. -/
def wrapped (needed : Bool) (origin : Origin) (inputs : List Fragment) : List Fragment :=
  if needed then ⟨"(", origin⟩ :: inputs ++ [⟨")", origin⟩] else inputs

/-- One text after the other. -/
def textOf (inputs : List Fragment) : String := String.join (inputs.map (·.text))

mutual

/-- The texts that go into the code, from left to right, as they were before any of them were joined;
some may be empty. -/
def inputs : Recipe → List Fragment
  | .empty => []
  | .tagged text origin => [⟨text, origin⟩]
  | .push code text origin => code.inputs ++ [⟨text, origin⟩]
  | .append first second => first.inputs ++ second.inputs
  | .join separator parts origin => [⟨separator, origin⟩].intercalate (inputsOfAll parts)
  | .cat parts => (inputsOfAll parts).flatten
  | .parenthesized code origin => wrapped (!Code.isSimple (textOf code.inputs)) origin code.inputs
  | .arrowBody code origin =>
    wrapped ((textOf code.inputs).toList.head? == some '\x7b') origin code.inputs
  | .fill template value origin =>
    template.pieces.flatMap (Template.Piece.inputs
      (wrapped (!Code.isSimple (textOf value.inputs)) .site value.inputs) origin)

/-- The texts that go into each of some recipes. -/
def inputsOfAll : List Recipe → List (List Fragment)
  | [] => []
  | first :: rest => first.inputs :: inputsOfAll rest

end

/-! ## Every character keeps its origin -/

theorem render_eq_textOf {code : Code} {inputs : List Fragment}
    (h : code.chars = inputs.flatMap Fragment.chars) : code.render = textOf inputs := by
  have htext : textOf inputs = Code.render ⟨inputs⟩ := rfl
  rw [htext, ← String.toList_inj, Code.toList_render, Code.toList_render, h]
  rfl

theorem chars_wrapped {code : Code} {inputs : List Fragment}
    (h : code.chars = inputs.flatMap Fragment.chars) (needed : Bool) (origin : Origin) :
    (if needed then code.parens origin else code).chars =
      (wrapped needed origin inputs).flatMap Fragment.chars := by
  cases needed with
  | false => exact h
  | true => simp [wrapped, h, Fragment.chars]

theorem chars_parenthesized {code : Code} {inputs : List Fragment}
    (h : code.chars = inputs.flatMap Fragment.chars) (origin : Origin) :
    (code.parenthesized origin).chars =
      (wrapped (!Code.isSimple (textOf inputs)) origin inputs).flatMap Fragment.chars := by
  rw [← chars_wrapped h, Code.parenthesized, render_eq_textOf h]
  cases Code.isSimple (textOf inputs) <;> rfl

theorem chars_arrowBody {code : Code} {inputs : List Fragment}
    (h : code.chars = inputs.flatMap Fragment.chars) (origin : Origin) :
    (code.arrowBody origin).chars =
      (wrapped ((textOf inputs).toList.head? == some '\x7b') origin inputs).flatMap
        Fragment.chars := by
  rw [← chars_wrapped h, Code.arrowBody, render_eq_textOf h]
  split
  case h_1 heq => rw [heq]; rfl
  case h_2 hne =>
    have hhead : ((textOf inputs).toList.head? == some '\x7b') = false := by
      cases hlist : (textOf inputs).toList with
      | nil => rfl
      | cons c rest =>
        have hc : c ≠ '\x7b' := fun hc => hne rest (by rw [hlist, hc])
        simpa using hc
    rw [hhead]
    rfl

theorem chars_apply {value : Code} {inputs : List Fragment}
    (h : value.chars = inputs.flatMap Fragment.chars) (t : Template) (origin : Origin) :
    (t.apply value origin).chars = (t.pieces.flatMap (Template.Piece.inputs
      (wrapped (!Code.isSimple (textOf inputs)) .site inputs) origin)).flatMap Fragment.chars := by
  rw [Template.apply, Code.chars_cat, List.flatMap_map, List.flatMap_assoc]
  congr 1
  funext piece
  cases piece with
  | text body => simp [Template.Piece.code, Template.Piece.inputs, Fragment.chars]
  | hole => exact chars_parenthesized h .site

mutual

theorem chars_code : ∀ r : Recipe, r.code.chars = r.inputs.flatMap Fragment.chars
  | .empty => rfl
  | .tagged text origin => by simp [code, inputs, Fragment.chars]
  | .push r text origin => by simp [code, inputs, Code.push, chars_code r, Fragment.chars]
  | .append first second => by simp [code, inputs, chars_code first, chars_code second]
  | .join separator parts origin => by
    rw [code, inputs, Code.chars_join, chars_codeOfAll parts, flatMap_intercalate]
    simp [Fragment.chars]
  | .cat parts => by
    rw [code, inputs, Code.chars_cat, List.flatMap_def, chars_codeOfAll parts, ← List.flatMap_def,
      ← List.flatMap_id, List.flatMap_assoc]
    rfl
  | .parenthesized r origin => chars_parenthesized (chars_code r) origin
  | .arrowBody r origin => chars_arrowBody (chars_code r) origin
  | .fill t value origin => chars_apply (chars_code value) t origin

theorem chars_codeOfAll : ∀ parts : List Recipe,
    (codeOfAll parts).map Code.chars = (inputsOfAll parts).map (·.flatMap Fragment.chars)
  | [] => rfl
  | first :: rest => by
    rw [codeOfAll, inputsOfAll, List.map_cons, List.map_cons, chars_code first, chars_codeOfAll rest]

end

mutual

theorem isNormal_code : ∀ r : Recipe, r.code.IsNormal
  | .empty => Code.isNormal_empty
  | .tagged text origin => Code.isNormal_tagged text origin
  | .push r text origin => (isNormal_code r).append (Code.tagged text origin)
  | .append first second => (isNormal_code first).append second.code
  | .join separator parts origin => Code.isNormal_join (isNormal_codeOfAll parts) separator origin
  | .cat parts => Code.isNormal_cat (codeOfAll parts)
  | .parenthesized r origin => (isNormal_code r).parenthesized origin
  | .arrowBody r origin => (isNormal_code r).arrowBody origin
  | .fill t value origin => Code.isNormal_cat (t.pieces.map (Template.Piece.code value.code origin))

theorem isNormal_codeOfAll : ∀ parts : List Recipe, ∀ part ∈ codeOfAll parts, part.IsNormal
  | [] => List.forall_mem_nil _
  | first :: rest => List.forall_mem_cons.2 ⟨isNormal_code first, isNormal_codeOfAll rest⟩

end

/-- Code is made of the runs of one origin of all the characters that are put into it, in order,
whatever operations it is put together by. -/
theorem code_runs (r : Recipe) :
    r.code.fragments = Code.runs (r.inputs.flatMap Fragment.chars) ∧
    (∀ f ∈ r.code.fragments, f.text ≠ "") ∧
    r.code.fragments.IsChain (fun f g => f.origin ≠ g.origin) ∧
    r.code.render = String.join (r.inputs.map (·.text)) ∧
    (∀ s t : Recipe,
      (r.code ++ s.code ++ t.code).fragments = (r.code ++ (s.code ++ t.code)).fragments) ∧
    (Code.empty ++ r.code).fragments = r.code.fragments ∧
    (r.code ++ Code.empty).fragments = r.code.fragments ∧
    (∀ (t : Template) (origin : Origin),
      (t.apply r.code origin).chars = (t.pieces.flatMap (Template.Piece.inputs
        (wrapped (!Code.isSimple r.code.render) .site r.code.fragments) origin)).flatMap
          Fragment.chars) ∧
    ∀ (separator : String) (parts : List Recipe) (origin : Origin),
      (Code.join separator (parts.map code) origin).chars =
        (Fragment.chars ⟨separator, origin⟩).intercalate (parts.map fun part => part.code.chars) := by
  have hnormal := isNormal_code r
  have hchars := chars_code r
  refine ⟨hchars ▸ hnormal.fragments_eq, hnormal.nonempty, hnormal.alternating,
    render_eq_textOf hchars, fun s t => ?_, ?_, rfl, fun t origin => ?_, fun separator parts origin => ?_⟩
  · rw [Code.append_assoc]
  · rw [hnormal.empty_append]
  · exact @chars_apply r.code r.code.fragments rfl t origin
  · rw [Code.chars_join, List.map_map]
    rfl

example : (fill ⟨"s", [.text "new Date(", .hole, .text ")"]⟩
    (push (tagged "a" .site) " ?? b" .site) (.stringFormat "day")).code.fragments =
      [⟨"new Date(", .stringFormat "day"⟩, ⟨"(a ?? b)", .site⟩, ⟨")", .stringFormat "day"⟩] := by
  decide

end Recipe

end OpenApi

import Mathlib.Combinatorics.Pigeonhole
import OpenApi.Proofs.Conversion.Recursion
import OpenApi.Proofs.Document.Bounds

/-!
Compilers follow schemas deep enough: the conversion of a schema fails only if that of a schema it
leads to fails for a reason of its own (`Compiler.convertTo_ok_iff`). Between two references no schema
comes twice. But the branches for arrays of a union are merged to a union that stands nowhere in the
document, and those of that to the next one; that goes on no longer than there are schemas, or else the
items of all these branches are nested without end.
-/

namespace OpenApi

/-! ## The branches for arrays of a union -/

namespace UnionShapes

variable {doc : Document} {formats : Registry}

/-- The schema of the items of a branch with the keywords `k`, if it is one for arrays. -/
def itemsOf (k : Keywords Schema) : Option Schema :=
  match k.type with
  | some .array => some (k.items.getD (.bool true))
  | none => if k.isObjectLike then none else k.items
  | some _ => none

theorem addKeywords_arrays {shapes shapes' : UnionShapes} {branch : Schema} {k : Keywords Schema}
    (h : shapes.addKeywords formats branch k = .ok shapes') :
    shapes'.arrays = shapes.arrays ++ (itemsOf k).toList := by
  unfold addKeywords at h
  unfold itemsOf
  split at h
  · cases h
  dsimp only at h
  generalize k.type = type at h ⊢
  rcases type with _ | type
  · dsimp only at h ⊢
    split at h
    case isTrue hobject => cases h; rw [if_pos hobject]; simp [addObject]
    case isFalse hobject =>
      rw [if_neg hobject]
      split at h
      case isTrue hitems =>
        obtain ⟨items, hitems⟩ := Option.isSome_iff_exists.1 hitems
        cases h
        simp [addArray, hitems]
      case isFalse hitems =>
        rw [Option.not_isSome_iff_eq_none.1 hitems]
        split at h
        · exact (addString_eq_ok h).2.trans (List.append_nil _).symm
        · cases h; exact (List.append_nil _).symm
  · cases type
    case array => cases h; rfl
    case string => exact (addString_eq_ok h).2.trans (List.append_nil _).symm
    case unknown => cases h
    all_goals cases h; exact (List.append_nil _).symm

/-- The schema of the items of a branch, if it is one for arrays. -/
def branchItems (doc : Document) (branch : Schema) : Option Schema :=
  match doc.deref .schema branch with
  | .ok (.inline k) => itemsOf k
  | _ => none

theorem add_arrays {shapes shapes' : UnionShapes} {branch : Schema}
    (h : add doc formats shapes branch = .ok shapes') :
    shapes'.arrays = shapes.arrays ++ (branchItems doc branch).toList := by
  obtain ⟨target, htarget, h⟩ := Except.bind_eq_ok.1 h
  unfold branchItems
  rw [htarget]
  rcases target with (_ | _) | k
  · cases h; simp
  · cases h; simp
  · exact addKeywords_arrays h

/-- The branches for arrays of a union, in order. -/
theorem ofBranches_arrays {branches : List Schema} {shapes : UnionShapes}
    (h : ofBranches doc formats branches = .ok shapes) :
    shapes.arrays = branches.flatMap fun branch => (branchItems doc branch).toList := by
  have add : ∀ {shapes shapes' : UnionShapes},
      branches.foldlM (add doc formats) shapes = .ok shapes' → shapes'.arrays = shapes.arrays ++
        branches.flatMap fun branch => (branchItems doc branch).toList := by
    clear h
    induction branches with
    | nil => intro _ _ h; cases h; simp
    | cons branch rest ih =>
      intro shapes shapes' h
      rw [List.foldlM_cons] at h
      obtain ⟨next, hnext, h⟩ := Except.bind_eq_ok.1 h
      rw [ih h, add_arrays hnext, List.flatMap_cons, List.append_assoc]
  simpa using add h

end UnionShapes

/-! ## Items of items -/

section

variable {c : Compiler} {d : Direction}

/-- The schema of the items, of the items of these, and so on. -/
def nestedItems (doc : Document) (n : Nat) (branch : Option Schema) : Option Schema :=
  (fun b => b.bind (UnionShapes.branchItems doc))^[n] branch

theorem nestedItems_add (doc : Document) (m n : Nat) (branch : Option Schema) :
    nestedItems doc (m + n) branch = nestedItems doc m (nestedItems doc n branch) :=
  Function.iterate_add_apply _ m n branch

theorem nestedItems_none (doc : Document) (n : Nat) : nestedItems doc n none = none := by
  induction n with
  | zero => rfl
  | succ n ih => exact ih

theorem nestedItems_isSome_of_le {doc : Document} {m n : Nat} {branch : Option Schema} (hle : m ≤ n)
    (h : (nestedItems doc n branch).isSome = true) : (nestedItems doc m branch).isSome = true := by
  obtain ⟨k, rfl⟩ := Nat.exists_eq_add_of_le' hle
  rw [nestedItems_add] at h
  cases hm : nestedItems doc m branch with
  | none => rw [hm, nestedItems_none] at h; cases h
  | some _ => rfl

theorem branchItems_mem {doc : Document} {B : Set Schema} (hB : doc.Closed B)
    {branch items : Schema} (hbranch : branch ∈ B)
    (h : UnionShapes.branchItems doc branch = some items) : items ∈ B := by
  unfold UnionShapes.branchItems at h
  split at h
  case h_2 => cases h
  case h_1 k hderef =>
    have hk := hB.deref hbranch hderef
    have child (hitems : k.items = some items) : items ∈ B :=
      hB.child hk (Keywords.mem_children.2 (.inr (.inl hitems)))
    unfold UnionShapes.itemsOf at h
    split at h
    · cases hitems : k.items with
      | none => rw [hitems] at h; cases h; exact hB.any
      | some _ => rw [hitems] at h; cases h; exact child hitems
    · split at h
      · cases h
      · exact child h
    · cases h

theorem nestedItems_mem {doc : Document} {B : Set Schema} (hB : doc.Closed B)
    {branch items : Schema} {n : Nat} (hbranch : branch ∈ B)
    (h : nestedItems doc n (some branch) = some items) : items ∈ B := by
  induction n generalizing items with
  | zero => cases h; exact hbranch
  | succ n ih =>
    rw [nestedItems, Function.iterate_succ_apply'] at h
    obtain ⟨before, hbefore, h⟩ := Option.bind_eq_some_iff.1 h
    exact branchItems_mem hB (ih hbefore) h

/-- Items that are nested as often as there are schemas are nested without end. -/
theorem nestedItems_isSome {doc : Document} {schemas : Finset Schema} (hclosed : doc.Closed ↑schemas)
    {branch : Schema} (hbranch : branch ∈ schemas)
    (h : (nestedItems doc schemas.card (some branch)).isSome = true) (n : Nat) :
    (nestedItems doc n (some branch)).isSome = true := by
  have hsome (i : Nat) (hi : i ∈ Finset.range (schemas.card + 1)) :
      ∃ x, nestedItems doc i (some branch) = some x :=
    Option.isSome_iff_exists.1 (nestedItems_isSome_of_le (Finset.mem_range_succ_iff.1 hi) h)
  -- one of the schemas comes twice
  obtain ⟨i, hi, j, hj, hne, heq⟩ := Finset.exists_ne_map_eq_of_card_lt_of_maps_to
    (s := Finset.range (schemas.card + 1)) (t := schemas)
    (f := fun i => (nestedItems doc i (some branch)).getD branch) (by simp) (by
      intro i hi
      obtain ⟨x, hx⟩ := hsome i hi
      simpa [hx] using nestedItems_mem hclosed hbranch hx)
  wlog hlt : i < j generalizing i j
  · exact this j hj i hi hne.symm heq.symm (by omega)
  have hback : nestedItems doc i (some branch) = nestedItems doc j (some branch) := by
    obtain ⟨x, hx⟩ := hsome i hi
    obtain ⟨y, hy⟩ := hsome j hj
    rw [hx, hy] at heq ⊢
    exact congrArg some heq
  -- and so it comes again and again
  have hagain (k : Nat) :
      nestedItems doc (k * (j - i) + i) (some branch) = nestedItems doc i (some branch) := by
    induction k with
    | zero => rw [Nat.zero_mul, Nat.zero_add]
    | succ k ih =>
      rw [Nat.succ_mul, Nat.add_assoc, Nat.sub_add_cancel hlt.le, nestedItems_add, ← hback,
        ← nestedItems_add, ih]
  refine nestedItems_isSome_of_le (n := n * (j - i) + i) ?_ ?_
  · exact le_trans (Nat.le_mul_of_pos_right n (Nat.sub_pos_of_lt hlt)) (Nat.le_add_right _ _)
  · rw [hagain, Option.isSome_iff_exists]
    exact hsome i hi

theorem Compiler.Outlined.union {items : List Schema} {o : Outline}
    (h : c.Outlined { oneOf := items } o) (hitems : items ≠ []) :
    ∃ shapes, UnionShapes.ofBranches c.document c.formats items = .ok shapes ∧
      o.inner = shapes.objects ++ shapes.itemSchemas := by
  obtain ⟨depth, h⟩ := h
  unfold Compiler.outline at h
  cases items with
  | nil => exact absurd rfl hitems
  | cons first rest =>
    obtain ⟨shapes, hshapes, h⟩ := Except.bind_eq_ok.1 h
    refine ⟨shapes, hshapes, ?_⟩
    split at h
    · cases h
    · cases h; rfl

theorem itemSchemas_eq {shapes : UnionShapes} (h : 2 ≤ shapes.arrays.length) :
    shapes.itemSchemas = [.inline { oneOf := shapes.arrays }] := by
  unfold UnionShapes.itemSchemas
  split
  case h_1 heq => rw [heq] at h; exact absurd h (by simp)
  case h_2 heq => rw [heq] at h; exact absurd h (by simp)
  case h_3 => rfl

/-- The union of branches all of whose items are nested without end is not convertible. -/
theorem Convertible.not_nested {V : Set String} {items : List Schema}
    (h : Convertible c d V (.inline { oneOf := items })) (hlength : 2 ≤ items.length) :
    ¬∀ branch ∈ items, ∀ n, (nestedItems c.document n (some branch)).isSome = true := by
  generalize hx : Schema.inline { oneOf := items } = x at h
  induction h generalizing items with
  | ref => cases hx
  | bool => cases hx
  | @inline k o outlined testable inside ih =>
    cases hx
    intro hnested
    obtain ⟨shapes, hshapes, hinner⟩ := outlined.union (by rintro rfl; simp at hlength)
    have hone : ∀ branch ∈ items, (UnionShapes.branchItems c.document branch).toList.length = 1 := by
      intro branch hbranch
      obtain ⟨x, hx⟩ := Option.isSome_iff_exists.1 (hnested branch hbranch 1)
      rw [show UnionShapes.branchItems c.document branch = some x from hx]
      rfl
    have harrays := UnionShapes.ofBranches_arrays hshapes
    have hcount : shapes.arrays.length = items.length := by
      rw [harrays, List.length_flatMap, List.map_congr_left hone]
      simp
    have hmem : Schema.inline { oneOf := shapes.arrays } ∈ o.inner := by
      rw [hinner, itemSchemas_eq (by omega)]
      simp
    refine ih _ hmem (by omega) rfl fun branch hbranch n => ?_
    rw [harrays] at hbranch
    obtain ⟨outer, houter, hbranch⟩ := List.mem_flatMap.1 hbranch
    have := hnested outer houter (n + 1)
    rwa [nestedItems_add, show nestedItems c.document 1 (some outer) = some branch from
      Option.mem_toList.1 hbranch] at this

/-! ## How deep conversions go -/

/-- A schema of a set, or a union that branches for arrays have been merged to, and may be again no
more than `slack` times in a row. -/
def Placed (doc : Document) (schemas : Finset Schema) (slack : Nat) (x : Schema) : Prop :=
  x ∈ schemas ∨ ∃ (items : List Schema) (merged : Nat), x = .inline { oneOf := items } ∧
    merged ≤ schemas.card ∧ merged + slack = schemas.card + 1 ∧
    ∀ y ∈ items, ∃ branch ∈ schemas, nestedItems doc merged (some branch) = some y

variable {schemas : Finset Schema}

theorem Placed.inner_of_mem (hclosed : c.document.Closed ↑schemas) {k : Keywords Schema} {o : Outline}
    (hk : .inline k ∈ schemas) (ho : c.Outlined k o) {y : Schema} (hy : y ∈ o.inner) :
    Placed c.document schemas (schemas.card + 1) y := by
  obtain ⟨depth, ho⟩ := ho
  rcases Compiler.outline_inner_of_mem hclosed hk ho y hy with hy | ⟨items, rfl, hitems, _⟩
  · exact .inl hy
  · exact .inr ⟨items, 0, rfl, Nat.zero_le _, Nat.zero_add _, fun y hy => ⟨y, hitems y hy, rfl⟩⟩

/-- What is merged once more has room for it, as the union is convertible. -/
theorem Placed.inner_of_union (hclosed : c.document.Closed ↑schemas) {V : Set String}
    {items : List Schema} {merged : Nat} {o : Outline} (hmerged : merged ≤ schemas.card)
    (hitems : ∀ y ∈ items, ∃ branch ∈ schemas,
      nestedItems c.document merged (some branch) = some y)
    (hx : Convertible c d V (.inline { oneOf := items })) (ho : c.Outlined { oneOf := items } o)
    {y : Schema} (hy : y ∈ o.inner) : Placed c.document schemas (schemas.card - merged) y := by
  have hB : ∀ y ∈ items, y ∈ (schemas : Set Schema) := fun y hy => by
    obtain ⟨branch, hbranch, heq⟩ := hitems y hy
    exact nestedItems_mem hclosed hbranch heq
  cases items with
  | nil =>
    obtain ⟨depth, ho⟩ := ho
    cases ho
    cases hy
  | cons first rest =>
    obtain ⟨shapes, hshapes, hinner⟩ := ho.union (List.cons_ne_nil _ _)
    obtain ⟨objects, arrays, hobjects, harrays, hlength, hobjects_eq, harrays_eq⟩ :=
      hclosed.ofBranches hB hshapes
    rw [hinner] at hy
    rcases List.mem_append.1 hy with hy | hy
    · exact .inl (hobjects y (by simpa [hobjects_eq] using hy))
    unfold UnionShapes.itemSchemas at hy
    split at hy
    case h_1 => cases hy
    case h_2 heq =>
      refine .inl (harrays y ?_)
      rwa [← heq, harrays_eq] at hy
    case h_3 hnil hsingle =>
      have htwo : 2 ≤ (first :: rest).length := by
        refine le_trans ?_ hlength
        rw [show arrays = shapes.arrays by simpa using harrays_eq.symm]
        match harrays : shapes.arrays with
        | [] => exact absurd harrays hnil
        | [x] => exact absurd harrays (hsingle x)
        | _ :: _ :: _ => simp
      -- Items that nest as deep as there are schemas nest without end, and the union with them.
      have hroom : merged < schemas.card := by
        refine lt_of_le_of_ne hmerged ?_
        rintro rfl
        refine hx.not_nested htwo fun y hy n => ?_
        obtain ⟨branch, hbranch, heq⟩ := hitems y hy
        rw [← heq, ← nestedItems_add]
        exact nestedItems_isSome hclosed hbranch (by rw [heq]; rfl) _
      refine .inr ⟨shapes.arrays, merged + 1, List.mem_singleton.1 hy, hroom, by omega, fun z hz => ?_⟩
      rw [UnionShapes.ofBranches_arrays hshapes] at hz
      obtain ⟨outer, houter, hz⟩ := List.mem_flatMap.1 hz
      obtain ⟨branch, hbranch, heq⟩ := hitems outer houter
      refine ⟨branch, hbranch, ?_⟩
      rw [Nat.add_comm, nestedItems_add, heq]
      exact Option.mem_toList.1 hz

open Classical in
/-- The conversion of a convertible schema comes to an end: after each of the references there are the
schemas of the set to go through, each with the unions that are merged from it. The schemas since the
last reference are `visited`. -/
theorem Following.convertTo_ne_tooDeep {refs : Finset String} {outlines depth : Nat}
    (opened : Finset String) (visited : Finset Schema) (slack : Nat) {x : Schema} {value : Code}
    {s : Progress}
    (hclosed : c.document.Closed ↑schemas) (hrefs : ∀ r, .ref r ∈ schemas → r ∈ refs)
    (hmerge : ∀ k : Keywords Schema, .inline k ∈ schemas → ∀ depth ≥ outlines,
      c.document.mergeAllOf depth k ≠ .error .tooDeep)
    (hplaced : Placed c.document schemas slack x)
    (hback : ∀ v ∈ visited, Relation.TransGen (Descends c d opened) v x)
    (hs : Following c d opened s) (hx : Convertible c d (safe c d opened) x)
    (hdepth : outlines + 1 + (refs \ opened).card * (schemas.card * (schemas.card + 2) + 1) +
      (schemas \ visited).card * (schemas.card + 2) + slack ≤ depth) :
    c.convertTo d depth x value s ≠ .error .tooDeep := by
  induction depth generalizing opened visited slack x value s with
  | zero => omega
  | succ depth ih =>
    intro h
    cases x with
    | bool accepts => cases h
    | ref r =>
      obtain ⟨target, s', hnew, htarget, hs', htooDeep⟩ := hs.target_of_tooDeep h
      rw [← Finset.coe_insert] at hs'
      have hmem : Schema.ref r ∈ schemas := by
        rcases hplaced with hmem | ⟨_, _, heq, _⟩
        · exact hmem
        · cases heq
      have hconvertible : Convertible c d (safe c d (insert r opened : Finset String)) target := by
        cases hx with
        | ref hr =>
          rw [Finset.coe_insert]
          exact safe_target hr hnew htarget
      -- There is a reference less to open, and all of the schemas are to be visited again.
      have hcard := card_sdiff_insert (hrefs r hmem) hnew
      refine ih (insert r opened) ∅ 0 (.inl (hclosed.target hmem htarget)) (by simp) hs'
        hconvertible ?_ htooDeep
      rw [← hcard, Nat.add_mul] at hdepth
      rw [Finset.sdiff_empty]
      omega
    | inline k =>
      have hall : k.allOf ≠ [] → c.document.mergeAllOf depth k ≠ .error .tooDeep := by
        intro hall
        rcases hplaced with hmem | ⟨items, _, heq, _⟩
        · exact hmerge k hmem depth (by omega)
        · cases heq
          exact absurd rfl hall
      obtain ⟨y, value', s', hdescends, hs', hy⟩ :=
        hs.descends_of_tooDeep (outline_ne_tooDeep hall) h
      have hconvertible := hx.of_descends hdescends
      obtain ⟨_, o, before, after, heq, ho, hinner, _⟩ := id hdescends
      cases heq
      have hymem : y ∈ o.inner := by simp [hinner]
      -- A schema of the set leaves fewer to visit, and a union merged from one leaves less slack.
      rcases hplaced with hmem | ⟨items, merged, heq, hmerged, hslack, hitems⟩
      · have hcycle : Schema.inline k ∉ visited := fun hcycle => hx.not_cycle (hback _ hcycle)
        have hcard := card_sdiff_insert hmem hcycle
        refine ih opened (insert (Schema.inline k) visited) _
          (Placed.inner_of_mem hclosed hmem ho hymem) (hdescends.back hback) hs' hconvertible ?_ hy
        rw [← hcard, Nat.add_mul] at hdepth
        omega
      · cases heq
        refine ih opened visited _ (Placed.inner_of_union hclosed hmerged hitems hx ho hymem)
          (fun v hv => (hback v hv).tail hdescends) hs' hconvertible ?_ hy
        omega

end

namespace Compiler

variable {c : Compiler} {d : Direction} {schema : Schema} {value : Code} {s : Progress}

/-- Compilers follow schemas deep enough. -/
theorem convertTo_ne_tooDeep {depth : Nat} (hx : Convertible c d (safe c d ∅) schema)
    (history : c.History s.probes) (hdepth : c.depth schema ≤ depth) :
    c.convertTo d depth schema value s ≠ .error .tooDeep := by
  classical
  have hempty : ((∅ : Finset String) : Set String) = ∅ := Finset.coe_empty
  refine Following.convertTo_ne_tooDeep ∅ ∅ 0
    (c.document.nearFinset_closed schema)
    (fun r hr => Document.mem_refsOf.2 hr)
    (fun k hk depth hdepth => Document.mergeAllOf_ne_tooDeep (Document.mem_nearFinset.1 hk) hdepth)
    (.inl (Document.mem_nearFinset.2 (.inr (.inl .refl)))) (by simp) ?_ ?_ ?_
  · rw [hempty]
    exact following_of_history history
  · rwa [hempty]
  · have hrefs := Document.card_refsOf_le (c.document.nearFinset schema)
    have henough := (c.card_near_le_depth schema).trans hdepth
    rw [Finset.sdiff_empty, Finset.sdiff_empty]
    refine le_trans ?_ henough
    generalize (c.document.nearFinset schema).card = n at hrefs ⊢
    nlinarith [Nat.mul_le_mul_right (n * (n + 2) + 1) hrefs]

/-- A conversion succeeds if and only if the schema is convertible. -/
theorem convertTo_ok_iff {depth : Nat} (value : Code) (history : c.History s.probes)
    (hdepth : c.depth schema ≤ depth) :
    (∃ r s', c.convertTo d depth schema value s = .ok (r, s')) ↔
      Convertible c d (safe c d ∅) schema := by
  constructor
  · rintro ⟨r, s', h⟩
    exact ((following_of_history history).answers (convertTo_answers h)).2 schema (by simp)
  · intro hx
    exact ((following_of_history history).tooDeep_or_ok hx).resolve_left
      (convertTo_ne_tooDeep hx history hdepth)

end Compiler

end OpenApi

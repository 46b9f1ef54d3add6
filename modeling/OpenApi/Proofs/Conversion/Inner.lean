import Mathlib.Data.Set.Finite.List
import OpenApi.Proofs.Conversion.Outline
import OpenApi.Proofs.Document.Flattening

/-!
Which schemas the conversion of a schema leads to. They stand in the schema or in the document, but
for the unions that branches for arrays are merged to; all in all there are finitely many of them.
-/

namespace OpenApi

variable {B : Set Schema}

/-! ## Merged objects -/

/-- The members of a merge come from what was merged. -/
theorem Merge.mem_own_memberSchemas {m : Merge} {k : Keywords Schema} {x : Schema}
    (h : x ∈ (m.own k).object.memberSchemas) :
    x ∈ k.memberSchemas ∨ x ∈ m.object.memberSchemas := by
  rcases Keywords.mem_memberSchemas.1 h with ⟨name, h⟩ | h
  · exact (Members.mem_foldl_put h).imp (fun h => Keywords.mem_memberSchemas.2 (.inl ⟨name, h⟩))
      fun h => Keywords.mem_memberSchemas.2 (.inl ⟨name, h⟩)
  · have h : (k.additionalProperties <|> m.object.additionalProperties) = some (.schema x) := h
    cases hk : k.additionalProperties with
    | none => exact .inr (Keywords.mem_memberSchemas.2 (.inr (by simpa [hk] using h)))
    | some _ => exact .inl (Keywords.mem_memberSchemas.2 (.inr (by simpa [hk] using h)))

/-! ## Shapes of unions -/

namespace UnionShapes

variable {formats : Registry} {shapes shapes' : UnionShapes} {branch : Schema}
  {k : Keywords Schema}

theorem addString_eq_ok (h : shapes.addString formats k = .ok shapes') :
    shapes'.objects = shapes.objects ∧ shapes'.arrays = shapes.arrays := by
  unfold addString at h
  split at h
  · cases h; exact ⟨rfl, rfl⟩
  · split at h
    · cases h; exact ⟨rfl, rfl⟩
    · obtain ⟨format, _, h⟩ := Except.bind_eq_ok.1 h
      cases h; exact ⟨rfl, rfl⟩

/-- A branch is one for objects, or for arrays, or for neither. -/
theorem addKeywords_eq_ok (h : shapes.addKeywords formats branch k = .ok shapes') :
    (shapes'.objects = shapes.objects ++ [branch] ∧ shapes'.arrays = shapes.arrays) ∨
      (shapes'.objects = shapes.objects ∧
        shapes'.arrays = shapes.arrays ++ [k.items.getD (.bool true)]) ∨
      (shapes'.objects = shapes.objects ∧ shapes'.arrays = shapes.arrays) := by
  unfold addKeywords at h
  split at h
  · cases h
  dsimp only at h
  split at h
  case h_1 => cases h; exact .inl ⟨rfl, rfl⟩
  case h_2 => cases h; exact .inr (.inl ⟨rfl, rfl⟩)
  case h_7 =>
    obtain ⟨hobjects, harrays⟩ := addString_eq_ok h
    exact .inr (.inr ⟨hobjects, harrays⟩)
  case h_8 => cases h
  case h_9 =>
    split at h
    · cases h; exact .inl ⟨rfl, rfl⟩
    split at h
    · cases h; exact .inr (.inl ⟨rfl, rfl⟩)
    split at h
    · obtain ⟨hobjects, harrays⟩ := addString_eq_ok h
      exact .inr (.inr ⟨hobjects, harrays⟩)
    · cases h; exact .inr (.inr ⟨rfl, rfl⟩)
  all_goals cases h; exact .inr (.inr ⟨rfl, rfl⟩)

end UnionShapes

/-! ## Sets of schemas -/

namespace Document.Closed

variable {doc : Document} (hB : doc.Closed B)

include hB

theorem memberSchemas {k : Keywords Schema} (hk : .inline k ∈ B) :
    ∀ x ∈ k.memberSchemas, x ∈ B :=
  fun _ hx => hB.child hk (Keywords.mem_children.2 (.inl hx))

theorem unionBranches {k : Keywords Schema} (hk : .inline k ∈ B) :
    ∀ x ∈ k.unionBranches, x ∈ B :=
  fun _ hx => hB.child hk (Keywords.unionBranches_subset hx)

theorem mergeAllOf {depth : Nat} {k merged : Keywords Schema} (hk : .inline k ∈ B)
    (h : doc.mergeAllOf depth k = .ok merged) : ∀ x ∈ merged.memberSchemas, x ∈ B := by
  obtain ⟨m, hm, h⟩ := Except.bind_eq_ok.1 h
  cases h
  have hmeet : ∀ (m : Merge) (part : Schema) (m' : Merge),
      (∀ x ∈ m.object.memberSchemas, x ∈ B) → m.meet part = .ok m' →
        ∀ x ∈ m'.object.memberSchemas, x ∈ B := by
    intro m part m' hm h
    rcases Document.meet_eq_ok h with ⟨r, _, _, rfl⟩ | ⟨_, rfl⟩
    · exact hm
    · exact hm
  have hown : ∀ (m : Merge) (k : Keywords Schema), .inline k ∈ B →
      (∀ x ∈ m.object.memberSchemas, x ∈ B) → ∀ x ∈ (m.own k).object.memberSchemas, x ∈ B :=
    fun m k hk hm x hx => (Merge.mem_own_memberSchemas hx).elim (hB.memberSchemas hk x) (hm x)
  exact Document.merge_preserves hmeet hown
    (fun k part k' hk hpart hk' =>
      hB.deref (hB.child hk (Keywords.mem_children.2 (.inr (.inr (.inl hpart))))) hk')
    hk (by simp [Keywords.memberSchemas, Keywords.furtherSchemas]) hm

theorem discriminatorCases {k : Keywords Schema} (hk : .inline k ∈ B)
    {discriminator : Discriminator} (hd : k.discriminator = some discriminator)
    {cases : List (String × String)}
    (h : Compiler.discriminatorCases discriminator.mapping k.unionBranches = .ok cases) :
    ∀ case ∈ cases, .ref case.2 ∈ B := by
  let inv (cases : List (String × String)) : Prop := ∀ case ∈ cases, .ref case.2 ∈ B
  show inv cases
  refine Except.foldlM_preserves (fun cases branch hbranch cases' hcases h => ?_) ?_ h
  · have hB' := hB.unionBranches hk branch hbranch
    cases branch with
    | ref reference =>
      dsimp only at h
      split at h
      · cases h
        exact hcases
      · obtain ⟨tag, _, h⟩ := Except.bind_eq_ok.1 h
        cases h
        intro case hcase
        rcases List.mem_append.1 hcase with hcase | hcase
        · exact hcases case hcase
        · rw [List.mem_singleton.1 hcase]
          exact hB'
    | bool accepts => cases h
    | inline k => cases h
  · intro case hcase
    obtain ⟨entry, hentry, rfl⟩ := List.mem_map.1 hcase
    refine hB.part hk (.mapped ?_ rfl)
    rw [Keywords.mapped, hd]
    exact List.mem_map.2 ⟨entry, hentry, rfl⟩

theorem add {formats : Registry} {branch : Schema} {shapes shapes' : UnionShapes}
    (hbranch : branch ∈ B) (h : UnionShapes.add doc formats shapes branch = .ok shapes') :
    ∃ objects arrays : List Schema, (∀ x ∈ objects, x ∈ B) ∧ (∀ x ∈ arrays, x ∈ B) ∧
      arrays.length ≤ 1 ∧ shapes'.objects = shapes.objects ++ objects ∧
      shapes'.arrays = shapes.arrays ++ arrays := by
  obtain ⟨target, htarget, h⟩ := Except.bind_eq_ok.1 h
  rcases target with (_ | _) | k
  · cases h
    exact ⟨[], [], by simp, by simp, by simp, by simp, by simp⟩
  · cases h
    exact ⟨[], [], by simp, by simp, by simp, by simp, by simp⟩
  · have hk := hB.deref hbranch htarget
    have hitems : k.items.getD (.bool true) ∈ B := by
      cases hitems : k.items with
      | none => exact hB.any
      | some items => exact hB.child hk (Keywords.mem_children.2 (.inr (.inl hitems)))
    rcases UnionShapes.addKeywords_eq_ok h with ⟨ho, ha⟩ | ⟨ho, ha⟩ | ⟨ho, ha⟩
    · exact ⟨[branch], [], by simpa using hbranch, by simp, by simp, ho, by simp [ha]⟩
    · exact ⟨[], [k.items.getD (.bool true)], by simp, by simpa using hitems, by simp, by simp [ho],
        ha⟩
    · exact ⟨[], [], by simp, by simp, by simp, by simp [ho], by simp [ha]⟩

/-- The shapes of a union hold schemas of `B`, no more of them than the union has branches. -/
theorem ofBranches {formats : Registry} {branches : List Schema} {shapes shapes' : UnionShapes}
    (hbranches : ∀ x ∈ branches, x ∈ B)
    (h : branches.foldlM (UnionShapes.add doc formats) shapes = .ok shapes') :
    ∃ objects arrays : List Schema, (∀ x ∈ objects, x ∈ B) ∧ (∀ x ∈ arrays, x ∈ B) ∧
      arrays.length ≤ branches.length ∧ shapes'.objects = shapes.objects ++ objects ∧
      shapes'.arrays = shapes.arrays ++ arrays := by
  induction branches generalizing shapes with
  | nil =>
    cases h
    exact ⟨[], [], by simp, by simp, by simp, by simp, by simp⟩
  | cons branch rest ih =>
    rw [List.foldlM_cons] at h
    obtain ⟨shapes₁, hadd, h⟩ := Except.bind_eq_ok.1 h
    obtain ⟨hbranch, hrest⟩ := List.forall_mem_cons.1 hbranches
    obtain ⟨objects, arrays, ho, ha, hlength, hobjects, harrays⟩ := hB.add hbranch hadd
    obtain ⟨objects', arrays', ho', ha', hlength', hobjects', harrays'⟩ := ih hrest h
    refine ⟨objects ++ objects', arrays ++ arrays', ?_, ?_, ?_, ?_, ?_⟩
    · exact List.forall_mem_append.2 ⟨ho, ho'⟩
    · exact List.forall_mem_append.2 ⟨ha, ha'⟩
    · rw [List.length_append, List.length_cons]
      omega
    · rw [hobjects', hobjects, List.append_assoc]
    · rw [harrays', harrays, List.append_assoc]

end Document.Closed

/-! ## Outlines -/

/-- The schemas of `B`, and the unions of no more than `count` of them. -/
def withUnions (B : Set Schema) (count : Nat) : Set Schema :=
  B ∪ {x | ∃ items : List Schema, x = .inline { oneOf := items } ∧ (∀ y ∈ items, y ∈ B) ∧
    items.length ≤ count}

theorem withUnions_mono {count count' : Nat} (h : count ≤ count') :
    withUnions B count ⊆ withUnions B count' := by
  rintro x (hx | ⟨items, rfl, hitems, hlength⟩)
  · exact .inl hx
  · exact .inr ⟨items, rfl, hitems, hlength.trans h⟩

theorem withUnions_finite (hfinite : B.Finite) (count : Nat) : (withUnions B count).Finite := by
  refine hfinite.union ?_
  have := hfinite.to_subtype
  refine ((List.finite_length_le B count).image
    fun items => Schema.inline { oneOf := items.map Subtype.val }).subset ?_
  rintro x ⟨items, rfl, hitems, hlength⟩
  lift items to List B using hitems
  exact ⟨items, by simpa using hlength, rfl⟩

namespace Compiler

variable {c : Compiler} {count : Nat} {k : Keywords Schema} {o : Outline}

theorem itemSchemas_mem {shapes : UnionShapes} (ha : ∀ x ∈ shapes.arrays, x ∈ B)
    (hlength : shapes.arrays.length ≤ count) : ∀ x ∈ shapes.itemSchemas, x ∈ withUnions B count := by
  unfold UnionShapes.itemSchemas
  split
  case h_1 => simp
  case h_2 items heq =>
    intro x hx
    exact .inl (ha x (by simpa [heq] using hx))
  case h_3 items _ _ =>
    intro x hx
    exact .inr ⟨shapes.arrays, List.mem_singleton.1 hx, ha, hlength⟩

theorem unionOutline_inner (hB : c.document.Closed B) {branches : List Schema}
    (hbranches : ∀ x ∈ branches, x ∈ B) (hlength : branches.length ≤ count)
    (h : c.unionOutline branches = .ok o) : ∀ x ∈ o.inner, x ∈ withUnions B count := by
  obtain ⟨shapes, hshapes, h⟩ := Except.bind_eq_ok.1 h
  obtain ⟨objects, arrays, ho, ha, hcount, hobjects, harrays⟩ := hB.ofBranches hbranches hshapes
  split at h
  · cases h
  · cases h
    refine List.forall_mem_append.2 ⟨fun x hx => .inl (ho x (by simpa [hobjects] using hx)), ?_⟩
    refine itemSchemas_mem (fun x hx => ha x (by simpa [harrays] using hx)) ?_
    rw [harrays]
    exact le_trans hcount hlength

/-- The outline of a schema of `B` holds schemas of `B`, and a union of as many of them as the schema
has branches. -/
theorem outline_inner_of_mem (hB : c.document.Closed B) {depth : Nat} (hk : .inline k ∈ B)
    (h : c.outline depth k = .ok o) : ∀ x ∈ o.inner, x ∈ withUnions B k.unionBranches.length := by
  have members : ∀ x ∈ k.memberSchemas, x ∈ withUnions B k.unionBranches.length :=
    fun x hx => .inl (hB.memberSchemas hk x hx)
  have items : ∀ x ∈ k.items.toList, x ∈ withUnions B k.unionBranches.length :=
    fun x hx => .inl (hB.child hk (Keywords.mem_children.2 (.inr (.inl (by simpa using hx)))))
  have string : ∀ o, c.stringOutline k = .ok o →
      ∀ x ∈ o.inner, x ∈ withUnions B k.unionBranches.length := by
    intro o h
    unfold stringOutline at h
    split at h
    · cases h; simp
    · split at h
      · cases h; simp
      · obtain ⟨format, _, h⟩ := Except.bind_eq_ok.1 h
        cases h; simp
  unfold outline at h
  split at h
  · obtain ⟨merged, hmerged, h⟩ := Except.bind_eq_ok.1 h
    cases h
    exact fun x hx => .inl (hB.mergeAllOf hk hmerged x hx)
  split at h
  · cases hd : k.discriminator with
    | none =>
      rw [hd] at h
      exact unionOutline_inner hB (hB.unionBranches hk) le_rfl h
    | some discriminator =>
      rw [hd] at h
      obtain ⟨cases, hcases, h⟩ := Except.bind_eq_ok.1 h
      cases h
      intro x hx
      obtain ⟨case, hcase, rfl⟩ := List.mem_map.1 hx
      exact .inl (hB.discriminatorCases hk hd hcases case hcase)
  · generalize k.type = type at h
    rcases type with _ | type
    · dsimp only at h
      split at h
      · cases h; exact members
      split at h
      · cases h; exact items
      split at h
      · exact string o h
      · cases h; simp
    · cases type
      case string => exact string o h
      case array => cases h; exact items
      case object => cases h; exact members
      case unknown name => cases h
      all_goals cases h; simp

/-- The conversions of the schemas of `B`, and of the unions of them, lead to such schemas only. -/
theorem outline_inner (hB : c.document.Closed B)
    (hcount : ∀ k : Keywords Schema, .inline k ∈ B → k.unionBranches.length ≤ count)
    {depth : Nat} (hk : .inline k ∈ withUnions B count) (h : c.outline depth k = .ok o) :
    ∀ x ∈ o.inner, x ∈ withUnions B count := by
  rcases hk with hk | ⟨items, heq, hitems, hlength⟩
  · exact fun x hx => withUnions_mono (hcount k hk) (outline_inner_of_mem hB hk h x hx)
  · cases heq
    unfold outline at h
    cases items with
    | nil => cases h; simp
    | cons first rest => exact unionOutline_inner hB hitems hlength h

end Compiler

end OpenApi

import OpenApi.Proofs.Document.Ends

/-!
What an `allOf` is merged from. However deep its parts are nested, a merge takes in schema objects of
one flat list, one over the other (`merge_flattens`): the objects of each part before the part itself,
and the schema with the `allOf` last.
-/

namespace OpenApi

/-! ## One object over another -/

/-- The object with what a schema says itself about members over it. -/
def Merge.extended (object k : Keywords Schema) : Keywords Schema := (Merge.own { object } k).object

theorem Merge.own_object (m : Merge) (k : Keywords Schema) :
    (m.own k).object = Merge.extended m.object k := rfl

namespace Document

/-- The schema objects that the parts of an `allOf` amount to, references followed. -/
inductive Flattens (doc : Document) : List Schema → List (Keywords Schema) → Prop
  | nil : Flattens doc [] []
  | any {part : Schema} {rest : List Schema} {objects : List (Keywords Schema)}
      (target : doc.deref .schema part = .ok (.bool true)) (more : Flattens doc rest objects) :
      Flattens doc (part :: rest) objects
  | object {part : Schema} {rest : List Schema} {k : Keywords Schema}
      {inner objects : List (Keywords Schema)} (target : doc.deref .schema part = .ok (.inline k))
      (isPart : Merge.isPart k = true) (inside : Flattens doc k.allOf inner)
      (more : Flattens doc rest objects) :
      Flattens doc (part :: rest) (inner ++ k :: objects)

variable {doc : Document}

theorem meet_object {m m' : Merge} {part : Schema} (h : m.meet part = .ok m') :
    m'.object = m.object := by
  rcases meet_eq_ok h with ⟨r, _, _, rfl⟩ | ⟨_, rfl⟩ <;> rfl

theorem foldlM_mergePart_flattens {merge : Merge → Keywords Schema → Except CompileError Merge}
    (hmerge : ∀ m k m', merge m k = .ok m' → ∃ inner, doc.Flattens k.allOf inner ∧
      m'.object = (inner ++ [k]).foldl Merge.extended m.object)
    {parts : List Schema} {m m' : Merge} (h : parts.foldlM (doc.mergePart merge) m = .ok m') :
    ∃ objects, doc.Flattens parts objects ∧ m'.object = objects.foldl Merge.extended m.object := by
  induction parts generalizing m with
  | nil => cases h; exact ⟨[], .nil, rfl⟩
  | cons part rest ih =>
    rw [List.foldlM_cons] at h
    obtain ⟨m₁, hpart, h⟩ := Except.bind_eq_ok.1 h
    obtain ⟨objects, hobjects, hm'⟩ := ih h
    obtain ⟨m₂, hmeet, ⟨htarget, rfl⟩ | ⟨k, htarget, hk, hmerged⟩⟩ := mergePart_eq_ok hpart
    · exact ⟨objects, .any htarget hobjects, by rw [hm', meet_object hmeet]⟩
    · obtain ⟨inner, hinner, hm₁⟩ := hmerge m₂ k m₁ hmerged
      refine ⟨inner ++ k :: objects, .object htarget hk hinner hobjects, ?_⟩
      rw [hm', hm₁, meet_object hmeet, ← List.foldl_append, List.append_assoc, List.singleton_append]

theorem merge_flattens {depth : Nat} {m m' : Merge} {k : Keywords Schema}
    (h : doc.merge depth m k = .ok m') : ∃ inner, doc.Flattens k.allOf inner ∧
      m'.object = (inner ++ [k]).foldl Merge.extended m.object := by
  -- on the depth, since the parts of a part are merged with less of it
  induction depth generalizing m k m' with
  | zero => cases h
  | succ depth ih =>
    obtain ⟨m₁, hparts, h⟩ := Except.bind_eq_ok.1 h
    cases h
    obtain ⟨objects, hobjects, hm₁⟩ := foldlM_mergePart_flattens (fun m k m' h => ih h) hparts
    refine ⟨objects, hobjects, ?_⟩
    rw [Merge.own_object, hm₁, List.foldl_append, List.foldl_cons, List.foldl_nil]

/-- The object schema of an `allOf` is made of the flat list of its parts, and the schema itself. -/
theorem mergeAllOf_flattens {depth : Nat} {k merged : Keywords Schema}
    (h : doc.mergeAllOf depth k = .ok merged) : ∃ inner, doc.Flattens k.allOf inner ∧
      merged = (inner ++ [k]).foldl Merge.extended { type := some .object } := by
  obtain ⟨m, hm, h⟩ := Except.bind_eq_ok.1 h
  cases h
  exact merge_flattens hm

end Document

/-! ## What comes through -/

namespace Members

variable {α : Type}

theorem put_of_not_mem {members : Members α} {name : String} {value : α}
    (h : name ∉ members.names) : members.put name value = members ++ [(name, value)] := by
  induction members with
  | nil => rfl
  | cons first rest ih =>
    obtain ⟨other, old⟩ := first
    obtain ⟨hne, hrest⟩ : ¬name = other ∧ name ∉ Members.names rest := by simpa [names] using h
    rw [put, if_neg (Ne.symm hne), ih hrest, List.cons_append]

theorem mem_put {members : Members α} {name : String} {value : α}
    {entry : String × α} (h : entry ∈ members.put name value) :
    entry = (name, value) ∨ entry ∈ members := by
  induction members with
  | nil => exact .inl (List.mem_singleton.1 h)
  | cons first rest ih =>
    obtain ⟨other, old⟩ := first
    unfold put at h
    split at h
    · exact (List.mem_cons.1 h).imp_right (List.mem_cons_of_mem _)
    · rcases List.mem_cons.1 h with rfl | h
      · exact .inr List.mem_cons_self
      · exact (ih h).imp_right (List.mem_cons_of_mem _)

theorem mem_foldl_put {entries members : Members α} {entry : String × α}
    (h : entry ∈ entries.foldl (fun known (name, value) => known.put name value) members) :
    entry ∈ entries ∨ entry ∈ members := by
  induction entries generalizing members with
  | nil => exact .inr h
  | cons first rest ih =>
    rcases ih h with h | h
    · exact .inl (List.mem_cons_of_mem _ h)
    · exact (mem_put h).imp_left fun h => by simp [h]

/-- New names are put in at the end. -/
theorem foldl_put_of_nodup {known entries : Members α} (h : (known.names ++ entries.names).Nodup) :
    entries.foldl (fun known (name, value) => known.put name value) known = known ++ entries := by
  induction entries generalizing known with
  | nil => simp
  | cons entry rest ih =>
    obtain ⟨name, value⟩ := entry
    obtain ⟨_, _, hdisjoint⟩ := List.nodup_append.1 h
    have hnew : name ∉ known.names := fun hmem => hdisjoint name hmem name (by simp [names]) rfl
    rw [List.foldl_cons]
    dsimp only
    rw [put_of_not_mem hnew, ih, List.append_assoc, List.singleton_append]
    simpa [names] using h

end Members

namespace Merge

theorem mem_required_extended {object k : Keywords Schema} {name : String} :
    name ∈ (extended object k).required ↔ name ∈ object.required ∨ name ∈ k.required := by
  show name ∈ k.required.foldl _ object.required ↔ _
  generalize object.required = known
  induction k.required generalizing known with
  | nil => simp
  | cons first rest ih =>
    rw [List.foldl_cons, ih, List.mem_cons]
    split
    case isTrue hknown => grind
    case isFalse => rw [List.mem_append, List.mem_singleton, or_assoc]

/-- A property is required if any of the schemas that are merged requires it. -/
theorem mem_required_foldl_extended {object : Keywords Schema} {objects : List (Keywords Schema)}
    {name : String} : name ∈ (objects.foldl extended object).required ↔
      name ∈ object.required ∨ ∃ k ∈ objects, name ∈ k.required := by
  induction objects generalizing object with
  | nil => simp
  | cons k rest ih =>
    rw [List.foldl_cons, ih, mem_required_extended, List.exists_mem_cons_iff, or_assoc]

theorem mem_names_extended {object k : Keywords Schema} {name : String}
    (h : name ∈ Members.names (extended object k).properties) :
    name ∈ Members.names object.properties ∨ name ∈ Members.names k.properties := by
  obtain ⟨entry, hentry, rfl⟩ := List.mem_map.1 h
  exact (Members.mem_foldl_put hentry).symm.imp List.mem_map_of_mem List.mem_map_of_mem

theorem mem_names_foldl_extended {object : Keywords Schema} {objects : List (Keywords Schema)}
    {name : String} (h : name ∈ Members.names (objects.foldl extended object).properties) :
    name ∈ Members.names object.properties ∨ ∃ k ∈ objects, name ∈ Members.names k.properties := by
  induction objects generalizing object with
  | nil => exact .inl h
  | cons k rest ih =>
    rw [List.exists_mem_cons_iff, ← or_assoc]
    exact (ih h).imp_left mem_names_extended

theorem mem_memberSchemas_extended {object k : Keywords Schema} {x : Schema}
    (hnames : (Members.names object.properties ++ Members.names k.properties).Nodup)
    (hfurther : object.additionalProperties = none ∨ k.additionalProperties = none) :
    x ∈ (extended object k).memberSchemas ↔ x ∈ object.memberSchemas ∨ x ∈ k.memberSchemas := by
  have hproperties : (extended object k).properties = object.properties ++ k.properties :=
    Members.foldl_put_of_nodup hnames
  have hadditional : (extended object k).additionalProperties =
      (k.additionalProperties <|> object.additionalProperties) := rfl
  simp only [Keywords.mem_memberSchemas, hproperties, hadditional, List.mem_append, exists_or]
  rcases hfurther with h | h
  · simp [h, or_assoc]
  · simp [h]
    tauto

/-- The members of a merge are those of the schemas that are merged, if no two of them declare a
property of one name and at most one of them says something on further members. -/
theorem mem_memberSchemas_foldl_extended {object : Keywords Schema} {objects : List (Keywords Schema)}
    (hnames : ((object :: objects).flatMap fun k => Members.names k.properties).Nodup)
    (hfurther : (object :: objects).countP (·.additionalProperties.isSome) ≤ 1) {x : Schema} :
    x ∈ (objects.foldl extended object).memberSchemas ↔
      ∃ k ∈ object :: objects, x ∈ k.memberSchemas := by
  induction objects generalizing object with
  | nil => simp
  | cons k rest ih =>
    simp only [List.flatMap_cons, ← List.append_assoc] at hnames
    have hnames' : (Members.names object.properties ++ Members.names k.properties).Nodup :=
      (List.nodup_append.1 hnames).1
    have hfurther' : object.additionalProperties = none ∨ k.additionalProperties = none := by
      by_contra h
      simp only [not_or, ← Option.isSome_iff_ne_none] at h
      simp [h.1, h.2] at hfurther
    -- the object that is left has the names of both, so what holds of the list still holds
    rw [List.foldl_cons, ih]
    · rw [List.exists_mem_cons_iff, mem_memberSchemas_extended hnames' hfurther',
        List.exists_mem_cons_iff, List.exists_mem_cons_iff, or_assoc]
    · rw [List.flatMap_cons, show (extended object k).properties = _ from
        Members.foldl_put_of_nodup hnames']
      simpa [Members.names] using hnames
    · have hadditional : (extended object k).additionalProperties.isSome =
          (k.additionalProperties.isSome || object.additionalProperties.isSome) := by
        show (k.additionalProperties <|> object.additionalProperties).isSome = _
        cases k.additionalProperties <;> rfl
      rw [List.countP_cons, List.countP_cons] at hfurther
      rw [List.countP_cons, hadditional]
      rcases hfurther' with h | h <;> simp_all

end Merge

end OpenApi

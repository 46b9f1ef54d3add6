import OpenApi.Document

/-!
The values of a JSON tree. Whatever a reference into a document leads to is one of its values, so
that there are no more of them than the document is large.
-/

namespace OpenApi

namespace Json

mutual

/-- All values of a tree, the tree itself first. -/
def values : Json → List Json
  | .array items => .array items :: itemValues items
  | .object members => .object members :: memberValues members
  | value => [value]

/-- All values of the items of an array. -/
def itemValues : List Json → List Json
  | [] => []
  | item :: rest => values item ++ itemValues rest

/-- All values of the members of an object. -/
def memberValues : List (String × Json) → List Json
  | [] => []
  | (_, value) :: rest => values value ++ memberValues rest

end

mutual

theorem length_values : ∀ value : Json, value.values.length = value.size
  | .null => rfl
  | .bool _ => rfl
  | .number _ => rfl
  | .string _ => rfl
  | .array items => by simp [values, size, length_itemValues items]
  | .object members => by simp [values, size, length_memberValues members]

theorem length_itemValues : ∀ items : List Json, (itemValues items).length = sizeItems items
  | [] => rfl
  | item :: rest => by
    simp [itemValues, sizeItems, length_values item, length_itemValues rest]

theorem length_memberValues :
    ∀ members : List (String × Json), (memberValues members).length = sizeMembers members
  | [] => rfl
  | (_, value) :: rest => by
    simp [memberValues, sizeMembers, length_values value, length_memberValues rest]

end

theorem self_mem_values (value : Json) : value ∈ value.values := by
  cases value <;> simp [values]

theorem values_subset_itemValues {items : List Json} {item : Json} (h : item ∈ items) :
    item.values ⊆ itemValues items := by
  induction items with
  | nil => simp at h
  | cons first rest ih =>
    rcases List.mem_cons.1 h with rfl | h
    · exact List.subset_append_left _ _
    · exact List.subset_append_of_subset_right _ (ih h)

theorem values_subset_memberValues {members : List (String × Json)} {name : String} {value : Json}
    (h : (name, value) ∈ members) : value.values ⊆ memberValues members := by
  induction members with
  | nil => simp at h
  | cons first rest ih =>
    rcases List.mem_cons.1 h with rfl | h
    · exact List.subset_append_left _ _
    · exact List.subset_append_of_subset_right _ (ih h)

mutual

/-- The values of a value in a tree are values of the tree. -/
theorem values_subset_of_mem_values : ∀ {value inner : Json}, inner ∈ value.values →
    inner.values ⊆ value.values
  | .null, _, h | .bool _, _, h | .number _, _, h | .string _, _, h => by
    cases List.mem_singleton.1 h
    exact List.Subset.refl _
  | .array items, _, h => by
    obtain rfl | h := List.mem_cons.1 h
    · exact List.Subset.refl _
    · exact List.subset_cons_of_subset _ (values_subset_of_mem_itemValues h)
  | .object members, _, h => by
    obtain rfl | h := List.mem_cons.1 h
    · exact List.Subset.refl _
    · exact List.subset_cons_of_subset _ (values_subset_of_mem_memberValues h)

theorem values_subset_of_mem_itemValues : ∀ {items : List Json} {inner : Json},
    inner ∈ itemValues items → inner.values ⊆ itemValues items
  | _ :: _, _, h => (List.mem_append.1 h).elim
    (fun h => List.subset_append_of_subset_left _ (values_subset_of_mem_values h))
    (fun h => List.subset_append_of_subset_right _ (values_subset_of_mem_itemValues h))

theorem values_subset_of_mem_memberValues : ∀ {members : List (String × Json)} {inner : Json},
    inner ∈ memberValues members → inner.values ⊆ memberValues members
  | _ :: _, _, h => (List.mem_append.1 h).elim
    (fun h => List.subset_append_of_subset_left _ (values_subset_of_mem_values h))
    (fun h => List.subset_append_of_subset_right _ (values_subset_of_mem_memberValues h))

end

end Json

theorem Members.mem_of_get? {α : Type} {members : Members α} {name : String} {value : α}
    (h : members.get? name = some value) : (name, value) ∈ members := by
  induction members with
  | nil => cases h
  | cons first rest ih =>
    obtain ⟨other, old⟩ := first
    rw [Members.get?, List.lookup_cons] at h
    split at h
    case h_1 heq =>
      cases h
      rw [eq_of_beq heq]
      exact List.mem_cons_self
    case h_2 => exact List.mem_cons_of_mem _ (ih h)

theorem Members.exists_get? {α : Type} {members : Members α} {name : String}
    (h : name ∈ members.names) : ∃ value, members.get? name = some value := by
  obtain ⟨entry, hentry, rfl⟩ := List.mem_map.1 h
  refine Option.ne_none_iff_exists'.1 fun hnone => ?_
  simpa using List.lookup_eq_none_iff.1 hnone entry hentry

namespace Pointer

variable {reference segment : String} {value found : Json}

theorem values_subset_of_step (h : step reference segment value = .ok found) :
    found.values ⊆ value.values := by
  cases value with
  | object members =>
    dsimp only [step] at h
    cases hget : Members.get? members segment with
    | none => simp [hget] at h
    | some next =>
      obtain rfl : next = found := by simpa [hget] using h
      exact List.subset_cons_of_subset _ (Json.values_subset_memberValues (Members.mem_of_get? hget))
  | array items =>
    dsimp only [step] at h
    cases hindex : Text.natural? Text.maxWord64 segment with
    | none => simp [hindex] at h
    | some index =>
      cases hget : items[index]? with
      | none => simp [hindex, hget] at h
      | some next =>
        obtain rfl : next = found := by simpa [hindex, hget] using h
        exact List.subset_cons_of_subset _
          (Json.values_subset_itemValues (List.mem_of_getElem? hget))
  | _ => cases h

theorem values_subset_of_follow {segments : List String}
    (h : follow reference segments value = .ok found) : found.values ⊆ value.values := by
  induction segments generalizing value with
  | nil => cases h; exact List.Subset.refl _
  | cons segment rest ih =>
    unfold follow at h
    cases hstep : step reference segment value with
    | error e => rw [hstep] at h; cases h
    | ok next =>
      rw [hstep] at h
      exact List.Subset.trans (ih h) (values_subset_of_step hstep)

end Pointer

/-- A reference leads to a value of the document. -/
theorem Document.resolve_mem_values {doc : Document} {reference : String} {value : Json}
    (h : doc.resolve reference = .ok value) : value ∈ doc.raw.values := by
  unfold Document.resolve Pointer.resolve at h
  cases hsegments : Pointer.segments reference with
  | error e => rw [hsegments] at h; cases h
  | ok segments =>
    rw [hsegments] at h
    exact Pointer.values_subset_of_follow h (Json.self_mem_values value)

end OpenApi

/-!
Maps from names that keep the order in which the names were first put in, as documents and
configurations do.
-/

namespace OpenApi

/-- Names with their values, in order. A map that was built with `put` holds each name once. -/
abbrev Members (α : Type) := List (String × α)

namespace Members

variable {α : Type}

/-- The value under `name`. -/
def get? (members : Members α) (name : String) : Option α := members.lookup name

/-- The names in order. -/
def names (members : Members α) : List String := members.map (·.1)

/-- The map with `value` under `name`: in the place that the name has already, else at the end. -/
def put : Members α → String → α → Members α
  | [], name, value => [(name, value)]
  | (other, old) :: rest, name, value =>
    if other = name then (name, value) :: rest else (other, old) :: put rest name value

/-- The map that comes of putting in names and values one after another. -/
def ofList (entries : List (String × α)) : Members α :=
  entries.foldl (fun members (name, value) => members.put name value) []

@[simp] theorem get?_put_self (members : Members α) (name : String) (value : α) :
    (members.put name value).get? name = some value := by
  induction members with
  | nil => simp [put, get?]
  | cons m rest ih =>
    obtain ⟨other, old⟩ := m
    by_cases e : other = name
    · simp [put, get?, e]
    · simpa [put, get?, e, List.lookup_cons, beq_false_of_ne (Ne.symm e)] using ih

theorem get?_put_of_ne (members : Members α) {name other : String} (value : α)
    (h : other ≠ name) : (members.put name value).get? other = members.get? other := by
  induction members with
  | nil => simp [put, get?, List.lookup_cons, beq_false_of_ne h]
  | cons m rest ih =>
    obtain ⟨key, old⟩ := m
    by_cases e : key = name
    · subst e
      simp [put, get?, List.lookup_cons, beq_false_of_ne h]
    · simp only [put, e, if_false, get?, List.lookup_cons] at ih ⊢
      rw [ih]

theorem names_put_of_mem {members : Members α} {name : String} {value : α}
    (h : name ∈ members.names) : (members.put name value).names = members.names := by
  induction members with
  | nil => simp [names] at h
  | cons m rest ih =>
    obtain ⟨other, old⟩ := m
    by_cases e : other = name
    · simp [put, names, e]
    · have : name ∈ Members.names rest := by simpa [names, Ne.symm e] using h
      simpa [put, e, names] using ih this

theorem names_put_of_not_mem {members : Members α} {name : String} {value : α}
    (h : name ∉ members.names) : (members.put name value).names = members.names ++ [name] := by
  induction members with
  | nil => simp [put, names]
  | cons m rest ih =>
    obtain ⟨other, old⟩ := m
    have hne : other ≠ name := fun e => h (by simp [names, e])
    have hrest : name ∉ Members.names rest := fun hm => h (by
      simpa [names] using Or.inr hm)
    simpa [put, hne, names] using ih hrest

end Members

end OpenApi

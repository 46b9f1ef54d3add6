import Mathlib.Data.List.Induction
import OpenApi.Proofs.Json.Records

/-!
Elements that come more than once. Where one is left out if it is there already, each is left in the
place where it came first (`List.foldl_addNew`); a map that entries are put into one after the other
keeps the place of the first entry under a name and the value of the last (`Members.names_foldl_put`,
`Members.get?_foldl_put_eq_some`).
-/

namespace List

variable {α : Type} [DecidableEq α]

theorem eraseDups_concat (xs : List α) (x : α) :
    (xs ++ [x]).eraseDups = if x ∈ xs then xs.eraseDups else xs.eraseDups ++ [x] := by
  rw [eraseDups_append]
  split
  case isTrue h => simp [removeAll, h]
  case isFalse h => simp [removeAll, h, eraseDups_cons]

theorem nodup_eraseDups (xs : List α) : xs.eraseDups.Nodup := by
  induction xs using List.reverseRecOn with
  | nil => exact nodup_nil
  | append_singleton xs x ih =>
    rw [eraseDups_concat]
    split
    case isTrue => exact ih
    case isFalse h => exact nodup_append.2 ⟨ih, pairwise_singleton _ x, by
      rintro a ha _ hx rfl
      exact h (mem_eraseDups.1 (mem_singleton.1 hx ▸ ha))⟩

/-- What is found first is never one of those that are left out. -/
theorem find?_eraseDups (p : α → Bool) (xs : List α) : xs.eraseDups.find? p = xs.find? p := by
  induction xs using List.reverseRecOn with
  | nil => rfl
  | append_singleton xs x ih =>
    rw [eraseDups_concat, find?_append]
    split
    case isFalse => rw [find?_append, ih]
    case isTrue hx =>
      rw [ih]
      cases hfind : xs.find? p with
      | some y => rfl
      | none => simp [find?_eq_none.1 hfind x hx]

/-- Adding what is not there yet, one element after the other, leaves the first of each. -/
theorem foldl_addNew (known xs : List α) :
    xs.foldl (fun known x => if x ∈ known then known else known ++ [x]) known.eraseDups =
      (known ++ xs).eraseDups := by
  induction xs generalizing known with
  | nil => rw [foldl_nil, append_nil]
  | cons x xs ih =>
    have hstep : (if x ∈ known.eraseDups then known.eraseDups else known.eraseDups ++ [x]) =
        (known ++ [x]).eraseDups := by simp [eraseDups_concat]
    rw [foldl_cons, hstep, ih, append_assoc, singleton_append]

end List

namespace OpenApi.Members

variable {α : Type}

theorem names_put (members : Members α) (name : String) (value : α) :
    (members.put name value).names =
      if name ∈ members.names then members.names else members.names ++ [name] := by
  split
  case isTrue h => exact names_put_of_mem h
  case isFalse h => exact names_put_of_not_mem h

/-- Each name is in the place where it was put in first. -/
theorem names_foldl_put (entries : Members α) {known : Members α} {names : List String}
    (hknown : known.names = names.eraseDups) :
    Members.names (entries.foldl (fun known (name, value) => known.put name value) known) =
      (names ++ entries.names).eraseDups := by
  have hfold : Members.names (entries.foldl (fun known (name, value) => known.put name value) known) =
      entries.names.foldl (fun known name => if name ∈ known then known else known ++ [name])
        known.names := by
    clear hknown
    induction entries generalizing known with
    | nil => rfl
    | cons entry entries ih => exact ih.trans (by rw [names_put]; rfl)
  rw [hfold, hknown, List.foldl_addNew]

/-- The entry under the name with the value is the last of the entries under the name. -/
def IsLast (entries : Members α) (name : String) (value : α) : Prop :=
  ∃ before after : Members α, entries = before ++ (name, value) :: after ∧ name ∉ after.names

theorem isLast_nil {name : String} {value : α} : ¬IsLast [] name value := by
  rintro ⟨before, after, heq, -⟩
  cases before <;> cases heq

theorem isLast_singleton {name other : String} {value last : α} :
    IsLast [(other, last)] name value ↔ other = name ∧ last = value := by
  constructor
  · rintro ⟨_ | ⟨_, before⟩, after, heq, -⟩
    · cases heq
      exact ⟨rfl, rfl⟩
    · simp at heq
  · rintro ⟨rfl, rfl⟩
    exact ⟨[], [], rfl, by simp [names]⟩

theorem isLast_append {entries more : Members α} {name : String} {value : α} :
    IsLast (entries ++ more) name value ↔
      more.IsLast name value ∨ name ∉ more.names ∧ entries.IsLast name value := by
  constructor
  · rintro ⟨before, after, heq, hafter⟩
    rcases List.append_eq_append_iff.1 heq with ⟨between, rfl, rfl⟩ | ⟨between, rfl, hmore⟩
    · exact .inl ⟨between, after, rfl, hafter⟩
    · cases between with
      | nil => exact .inl ⟨[], after, hmore.symm, hafter⟩
      | cons first between =>
        cases hmore
        obtain ⟨hbetween, hmore⟩ : name ∉ Members.names between ∧ name ∉ more.names := by
          simpa [names, not_or] using hafter
        exact .inr ⟨hmore, before, between, rfl, hbetween⟩
  · rintro (⟨before, after, rfl, hafter⟩ | ⟨hmore, before, after, rfl, hafter⟩)
    · exact ⟨entries ++ before, after, by rw [List.append_assoc], hafter⟩
    · refine ⟨before, after ++ more, by rw [List.append_assoc, List.cons_append], ?_⟩
      rw [names, List.map_append, List.mem_append, not_or]
      exact ⟨hafter, hmore⟩

/-- Each name has the value that was put in last. -/
theorem get?_foldl_put_eq_some {entries known : Members α} {name : String} {value : α} :
    get? (entries.foldl (fun known (name, value) => known.put name value) known) name = some value ↔
      entries.IsLast name value ∨ name ∉ entries.names ∧ known.get? name = some value := by
  induction entries using List.reverseRecOn with
  | nil => simp [isLast_nil, names]
  | append_singleton entries entry ih =>
    obtain ⟨other, last⟩ := entry
    rw [List.foldl_append, List.foldl_cons, List.foldl_nil, isLast_append, isLast_singleton]
    by_cases hname : name = other
    · subst hname
      simp [names]
    · rw [get?_put_of_ne _ _ hname, ih]
      simp [names, hname, Ne.symm hname]

end OpenApi.Members

/-!
Splitting a text at a character.
-/

namespace OpenApi.Text

/-- The parts of a text between the occurrences of `separator`, one more than there are of these;
`part` begins the first one. -/
def splitFrom (separator : Char) (part : List Char) : List Char → List (List Char)
  | [] => [part]
  | c :: rest =>
    if c = separator then part :: splitFrom separator [] rest
    else splitFrom separator (part ++ [c]) rest

/-- The parts of a text between the occurrences of `separator`. -/
def split (separator : Char) (text : List Char) : List (List Char) := splitFrom separator [] text

/-- A text stops where a character comes next that goes on in no such text. -/
theorem span_append {p : Char → Bool} {text rest : List Char} (hall : ∀ c ∈ text, p c = true)
    (hstops : ∀ c ∈ rest.head?, p c = false) :
    (text ++ rest).takeWhile p = text ∧ (text ++ rest).dropWhile p = rest := by
  rw [List.takeWhile_append_of_pos hall, List.dropWhile_append_of_pos hall]
  cases rest with
  | nil => exact ⟨List.append_nil text, rfl⟩
  | cons c rest => simp [hstops c rfl]

/-! What stands before and behind the first occurrence of a character. -/

theorem notMem_takeWhile_ne (d : Char) (text : List Char) : d ∉ text.takeWhile (· ≠ d) := by
  intro h
  simpa using List.all_eq_true.1 (List.all_takeWhile (p := (· ≠ d)) (l := text)) d h

theorem notMem_of_dropWhile_eq_nil {d : Char} {text : List Char}
    (h : text.dropWhile (· ≠ d) = []) : d ∉ text := by
  have happend := List.takeWhile_append_dropWhile (p := (· ≠ d)) (l := text)
  rw [h, List.append_nil] at happend
  rw [← happend]
  exact notMem_takeWhile_ne d text

theorem eq_of_dropWhile_eq_cons {c d : Char} {text rest : List Char}
    (h : text.dropWhile (· ≠ d) = c :: rest) : c = d := by
  have hhead := List.head?_dropWhile_not (· ≠ d) text
  rw [h] at hhead
  simpa using hhead

theorem eq_append_of_dropWhile_eq_cons {c d : Char} {text rest : List Char}
    (h : text.dropWhile (· ≠ d) = c :: rest) : text = text.takeWhile (· ≠ d) ++ d :: rest := by
  have happend := List.takeWhile_append_dropWhile (p := (· ≠ d)) (l := text)
  rw [h, eq_of_dropWhile_eq_cons h] at happend
  exact happend.symm

/-- What stands behind any occurrence stands behind the first one. -/
theorem suffix_of_append_eq {d : Char} {before inside front back : List Char} (hd : d ∉ before)
    (h : before ++ d :: inside = front ++ d :: back) : back <:+ inside := by
  rcases List.append_eq_append_iff.1 h with ⟨between, -, htail⟩ | ⟨between, hbefore, htail⟩
  · cases between with
    | nil =>
      obtain ⟨-, rfl⟩ := List.cons.inj htail
      exact List.suffix_rfl
    | cons c between =>
      obtain ⟨-, rfl⟩ := List.cons.inj htail
      exact ⟨between ++ [d], by simp⟩
  · cases between with
    | nil =>
      obtain ⟨-, rfl⟩ := List.cons.inj htail
      exact List.suffix_rfl
    | cons c between =>
      obtain ⟨rfl, -⟩ := List.cons.inj htail
      exact absurd (hbefore ▸ List.mem_append_right front List.mem_cons_self) hd

example : split '/' "a//b".toList = ["a".toList, [], "b".toList] := by decide

end OpenApi.Text

import OpenApi.Name
import OpenApi.Proofs.Code.Literals

/-!
Names, as generated code has them. Whatever the names of a document are made of, no character of the
names that are made from them means anything by itself in code.
-/

namespace OpenApi

namespace Text

open OpenApi.Lex

/-! ## Letters -/

/-- Code points of letters, and those that only other scripts and signs have. -/
def isHarmlessCode (n : Nat) : Bool :=
  (decide (0x80 ≤ n) && decide (n < 0xd800)) || (decide (0xe000 ≤ n) && decide (n < 0x110000)) ||
    (decide (0x41 ≤ n) && decide (n ≤ 0x5a)) || (decide (0x61 ≤ n) && decide (n ≤ 0x7a))

/-- Characters of names: those of identifiers, and all that other scripts and signs have. -/
def isWordPart (c : Char) : Bool := Name.isIdentifierPart c || decide (0x80 ≤ c.toNat)

theorem isWordPart_of_identifierPart {c : Char} (h : Name.isIdentifierPart c = true) :
    isWordPart c = true := by
  rw [isWordPart, h]
  rfl

theorem isOrdinary_of_wordPart {c : Char} (h : isWordPart c = true) : isOrdinary c = true := by
  unfold isOrdinary
  split
  all_goals first
    | rfl
    | exact absurd h (by decide)

theorem all_ordinary {text : List Char} (h : text.all isWordPart = true) :
    text.all isOrdinary = true :=
  List.all_eq_true.2 fun c hc => isOrdinary_of_wordPart (List.all_eq_true.1 h c hc)

theorem all_wordPart_of_identifierPart {text : List Char}
    (h : text.all Name.isIdentifierPart = true) : text.all isWordPart = true :=
  List.all_eq_true.2 fun c hc => isWordPart_of_identifierPart (List.all_eq_true.1 h c hc)

theorem all_ordinary_of_identifierPart {text : List Char}
    (h : text.all Name.isIdentifierPart = true) : text.all isOrdinary = true :=
  all_ordinary (all_wordPart_of_identifierPart h)

theorem isWordPart_ofNat {n : Nat} (h : isHarmlessCode n = true) :
    isWordPart (Char.ofNat n) = true := by
  by_cases hlarge : 0x80 ≤ n
  case pos =>
    have hvalid : n.isValidChar := by
      simp only [isHarmlessCode, Bool.or_eq_true, Bool.and_eq_true, decide_eq_true_eq] at h
      simp only [Nat.isValidChar]
      omega
    have hcode : (Char.ofNat n).toNat = n := by
      rw [Char.ofNat, dif_pos hvalid]
      rfl
    rw [isWordPart, hcode, decide_eq_true hlarge, Bool.or_true]
  case neg =>
    have hall : ∀ n < 0x80, isHarmlessCode n = true → isWordPart (Char.ofNat n) = true := by decide
    exact hall n (Nat.lt_of_not_le hlarge) h

/-- The counterparts that a run of a case map has are letters, or no characters of code at all. -/
def Shift.isHarmless : Shift → Bool
  | (first, last, _, target) =>
    (decide (0x80 ≤ target) && decide (target + (last - first) < 0xd800)) ||
      (decide (0xe000 ≤ target) && decide (target + (last - first) < 0x110000)) ||
      (decide (0x41 ≤ target) && decide (target + (last - first) ≤ 0x5a)) ||
      (decide (0x61 ≤ target) && decide (target + (last - first) ≤ 0x7a))

theorem Shift.isHarmlessCode {first last step target : Nat}
    (h : Shift.isHarmless (first, last, step, target) = true) {code : Nat} (hcode : code ≤ last) :
    Text.isHarmlessCode (target + (code - first)) = true := by
  simp only [Shift.isHarmless, Text.isHarmlessCode, Bool.or_eq_true, Bool.and_eq_true,
    decide_eq_true_eq] at h ⊢
  omega

/-- A character of names has such counterparts. -/
theorem counterpart_wordPart {shifts : List Shift} {long : List (Nat × List Nat)}
    (hshifts : shifts.all Shift.isHarmless = true)
    (hlong : long.all (fun entry => entry.2.all isHarmlessCode) = true) {c : Char}
    (hc : isWordPart c = true) :
    ((counterpart shifts long c.toNat).map Char.ofNat).all isWordPart = true := by
  unfold counterpart
  split
  case h_1 codes hfound =>
    obtain ⟨before, after, heq, _⟩ := List.lookup_eq_some_iff.1 hfound
    have hmem : (c.toNat, codes) ∈ long := by simp [heq]
    have hcodes := List.all_eq_true.1 (List.all_eq_true.1 hlong _ hmem)
    refine List.all_eq_true.2 (List.forall_mem_map.2 fun n hn => isWordPart_ofNat (hcodes n hn))
  case h_2 =>
    split
    case h_1 first last step target hfound =>
      have hmem := List.all_eq_true.1 hshifts _ (List.mem_of_find?_eq_some hfound)
      have hrun := List.find?_some hfound
      simp only [Bool.and_eq_true, decide_eq_true_eq] at hrun
      simp [isWordPart_ofNat (Shift.isHarmlessCode hmem hrun.1.2)]
    case h_2 => simp [Char.ofNat_toNat, hc]

theorem capital_wordPart {c : Char} (hc : isWordPart c = true) :
    (capital c).all isWordPart = true :=
  counterpart_wordPart (by decide +kernel) (by decide +kernel) hc

theorem small_wordPart {c : Char} (hc : isWordPart c = true) : (small c).all isWordPart = true :=
  counterpart_wordPart (by decide +kernel) (by decide +kernel) hc

theorem isWordPart_of_alphanumeric {c : Char} (h : isAlphanumeric c = true) :
    isWordPart c = true := by
  by_cases hlarge : 0x80 ≤ c.toNat
  case pos => rw [isWordPart, decide_eq_true hlarge, Bool.or_true]
  case neg =>
    -- only the first runs have characters of ASCII, and these are digits and letters
    have hruns : ∀ run ∈ alphanumericRuns, 0x80 ≤ run.1 ∨
        ∀ n < 0x80, run.1 ≤ n → n ≤ run.2.1 → isWordPart (Char.ofNat n) = true := by decide +kernel
    obtain ⟨⟨first, last, step⟩, hmem, hrun⟩ := List.any_eq_true.1 h
    simp only [Run.contains, Bool.and_eq_true, decide_eq_true_eq] at hrun
    rw [← Char.ofNat_toNat c]
    rcases hruns _ hmem with hbeyond | hletters
    · exact absurd (Nat.le_trans hbeyond hrun.1.1) hlarge
    · exact hletters _ (Nat.lt_of_not_le hlarge) hrun.1.1 hrun.1.2

end Text

/-! ## Names -/

namespace Name

open OpenApi.Lex Text

theorem parts_alphanumeric (chars : List Char) : ∀ part, part.all isAlphanumeric = true →
    ∀ word ∈ parts part chars, word.all isAlphanumeric = true := by
  induction chars with
  | nil =>
    intro part hpart word hword
    rw [parts] at hword
    split at hword
    · cases hword
    · exact List.mem_singleton.1 hword ▸ hpart
  | cons c rest ih =>
    intro part hpart word hword
    rw [parts] at hword
    split at hword
    case isTrue hc => exact ih _ (by simp [hpart, hc]) word hword
    case isFalse hc =>
      split at hword
      · exact ih [] rfl word hword
      · rcases List.mem_cons.1 hword with rfl | hword
        · exact hpart
        · exact ih [] rfl word hword

/-- Words that are cut further have no other characters. -/
theorem splitWord_all {p : Char → Bool} (run : Run) (word chars : List Char)
    (hword : word.all p = true) (hchars : chars.all p = true) :
    ∀ w ∈ splitWord run word chars, w.all p = true := by
  fun_induction splitWord run word chars with
  | case1 => exact List.forall_mem_nil _
  | case2 run word c =>
    rw [List.all_cons, Bool.and_eq_true_iff] at hchars
    exact List.forall_mem_singleton.2 (by simp [hword, hchars.1])
  | case3 run word c d rest _ ih =>
    rw [List.all_cons, Bool.and_eq_true_iff] at hchars
    exact List.forall_mem_cons.2 ⟨by simp [hword, hchars.1], ih rfl hchars.2⟩
  | case4 run word c d rest _ _ ih =>
    rw [List.all_cons, Bool.and_eq_true_iff] at hchars
    exact List.forall_mem_cons.2 ⟨hword, ih (by simp [hchars.1]) hchars.2⟩
  | case5 run word c d rest _ _ ih =>
    rw [List.all_cons, Bool.and_eq_true_iff] at hchars
    exact ih (by simp [hword, hchars.1]) hchars.2

theorem words_wordPart (name : String) : ∀ word ∈ words name, word.all isWordPart = true := by
  unfold words
  split
  · exact List.forall_mem_singleton.2 (by decide)
  · rename_i found _
    intro word hword
    obtain ⟨part, hpart, hword⟩ := List.mem_flatMap.1 hword
    have hall := parts_alphanumeric name.toList [] rfl part hpart
    have hword := splitWord_all .open [] part rfl hall word hword
    exact List.all_eq_true.2 fun c hc => isWordPart_of_alphanumeric (List.all_eq_true.1 hword c hc)

theorem smallWord_wordPart {word : List Char} (h : word.all isWordPart = true) :
    (smallWord word).all isWordPart = true := by
  fun_induction smallWord word with
  | case1 => rfl
  | case2 => decide
  | case3 c =>
    rw [List.all_cons, Bool.and_eq_true_iff] at h
    exact small_wordPart h.1
  | case4 c rest _ ih =>
    rw [List.all_cons, Bool.and_eq_true_iff] at h
    rw [List.all_append, small_wordPart h.1, ih h.2]
    rfl

theorem capitalWord_wordPart {word : List Char} (h : word.all isWordPart = true) :
    (capitalWord word).all isWordPart = true := by
  cases word with
  | nil => rfl
  | cons c rest =>
    rw [List.all_cons, Bool.and_eq_true_iff] at h
    rw [capitalWord, List.all_append, capital_wordPart h.1, smallWord_wordPart h.2]
    rfl

theorem escapeDigit_all {p : Char → Bool} (hp : p '_' = true) {name : List Char}
    (h : name.all p = true) : (escapeDigit name).all p = true := by
  unfold escapeDigit
  split
  · split
    · rw [List.all_cons, hp, h]
      rfl
    · exact h
  · rfl

theorem pascal_wordPart (name : String) : (pascal name).toList.all isWordPart = true := by
  rw [pascal, String.toList_ofList]
  refine escapeDigit_all rfl (List.all_eq_true.2 fun c hc => ?_)
  obtain ⟨word, hword, hc⟩ := List.mem_flatMap.1 hc
  exact List.all_eq_true.1 (capitalWord_wordPart (words_wordPart name word hword)) c hc

theorem camel_wordPart (name : String) : (camel name).toList.all isWordPart = true := by
  have hwords := words_wordPart name
  unfold camel
  split
  · rfl
  · rename_i first rest heq
    rw [heq] at hwords
    obtain ⟨hfirst, hrest⟩ := List.forall_mem_cons.1 hwords
    rw [String.toList_ofList]
    refine escapeDigit_all rfl ?_
    rw [List.all_append, smallWord_wordPart hfirst, Bool.true_and]
    refine List.all_eq_true.2 fun c hc => ?_
    obtain ⟨word, hword, hc⟩ := List.mem_flatMap.1 hc
    exact List.all_eq_true.1 (capitalWord_wordPart (hrest word hword)) c hc

theorem identifier_identifierPart (name : String) :
    (identifier name).toList.all isIdentifierPart = true := by
  unfold identifier
  split
  · decide
  · rw [String.toList_ofList]
    refine escapeDigit_all rfl (List.all_eq_true.2 (List.forall_mem_map.2 fun c _ => ?_))
    split
    case isTrue hc => exact hc
    case isFalse => rfl

theorem capitalized_wordPart {name : String} (h : name.toList.all isWordPart = true) :
    (capitalized name).toList.all isWordPart = true := by
  unfold capitalized
  split
  · decide
  · rename_i c rest heq
    rw [heq, List.all_cons, Bool.and_eq_true_iff] at h
    rw [String.toList_ofList, List.all_append, capital_wordPart h.1, h.2]
    rfl

theorem toNat_lt_of_identifierPart {c : Char} (hc : isIdentifierPart c = true) : c.toNat < 0x80 := by
  have below {last : UInt32} (hlast : last.toNat < 0x80) (h : c.val ≤ last) : c.toNat < 0x80 :=
    Nat.lt_of_le_of_lt (UInt32.le_iff_toNat_le.1 h) hlast
  simp only [isIdentifierPart, Char.isAlphanum, Bool.or_eq_true, beq_iff_eq] at hc
  rcases hc with ((halpha | hdigit) | rfl) | rfl
  · rcases Bool.or_eq_true_iff.1 halpha with hupper | hlower
    · exact below (by decide) (of_decide_eq_true hupper).2
    · exact below (by decide) (of_decide_eq_true (Bool.and_eq_true_iff.1 hlower).2)
  · exact below (by decide) (of_decide_eq_true (Bool.and_eq_true_iff.1 hdigit).2)
  · decide
  · decide

theorem capital_identifierPart {c : Char} (hc : isIdentifierPart c = true) :
    (capital c).all isIdentifierPart = true := by
  have hall : ∀ n < 0x80, isIdentifierPart (Char.ofNat n) = true →
      (capital (Char.ofNat n)).all isIdentifierPart = true := by decide +kernel
  have h := hall c.toNat (toNat_lt_of_identifierPart hc)
  rw [Char.ofNat_toNat] at h
  exact h hc

theorem capital_ne_nil {c : Char} (hc : isIdentifierPart c = true) : capital c ≠ [] := by
  have hall : ∀ n < 0x80, capital (Char.ofNat n) ≠ [] := by decide +kernel
  have h := hall c.toNat (toNat_lt_of_identifierPart hc)
  rwa [Char.ofNat_toNat] at h

theorem capitalized_identifierPart {name : String} (h : name.toList.all isIdentifierPart = true) :
    (capitalized name).toList.all isIdentifierPart = true := by
  unfold capitalized
  split
  · decide
  · rename_i c rest heq
    rw [heq, List.all_cons, Bool.and_eq_true_iff] at h
    rw [String.toList_ofList, List.all_append, capital_identifierPart h.1, h.2]
    rfl

theorem escapeDigit_ne_nil {name : List Char} (h : name ≠ []) : escapeDigit name ≠ [] := by
  cases name with
  | nil => exact absurd rfl h
  | cons c rest =>
    rw [escapeDigit]
    split <;> exact List.cons_ne_nil _ _

theorem capitalized_identifier_ne_empty (name : String) : capitalized (identifier name) ≠ "" := by
  have hpart := identifier_identifierPart name
  have hnonempty : (identifier name).toList ≠ [] := by
    unfold identifier
    split
    · decide
    · rename_i hname
      rw [String.toList_ofList]
      exact escapeDigit_ne_nil fun hnil => hname (List.map_eq_nil_iff.1 hnil)
  unfold capitalized
  split
  · rename_i hnil
    exact absurd hnil hnonempty
  · rename_i c rest heq
    rw [heq, List.all_cons, Bool.and_eq_true_iff] at hpart
    intro hempty
    have hnil : capital c ++ rest = [] := by simpa using congrArg String.toList hempty
    exact capital_ne_nil hpart.1 (List.append_eq_nil_iff.1 hnil).1

end Name

end OpenApi

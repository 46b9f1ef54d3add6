import OpenApi.Proofs.Code.Identifiers
import OpenApi.Proofs.Files.Names

/-!
Every name that a generated file declares is made of a key, a title or the identifier of an operation,
and this file says when a declaration may have it. Keys and titles become identifiers of the language,
since all other characters are replaced, and only a component can end up with a word that is reserved,
as what is made for it has a verb before its name.

Names of operations keep all letters and numbers of Unicode: their words have the letters and numbers of
the identifier and no others (`Name.words_eq`), and what a letter or a number is as part of an identifier
it is in both cases (`Name.spelled_camel`, `Name.spelled_pascal`). So they are legal for identifiers
whose letters and numbers are those of the language, with a letter or a digit first.
-/

namespace OpenApi

open Text

namespace Name

/-! ## Spelling -/

/-- The text is spelled like an identifier of the language. -/
structure IsSpelled (text : List Char) : Prop where
  start : ∃ c ∈ text.head?, isNameStart c = true
  parts : text.all isNamePart = true

/-- The words that the language keeps for itself in modules, where all code is strict. -/
def reservedWords : List String := [
  "await", "break", "case", "catch", "class", "const", "continue", "debugger", "default", "delete",
  "do", "else", "enum", "export", "extends", "false", "finally", "for", "function", "if",
  "implements", "import", "in", "instanceof", "interface", "let", "new", "null", "package", "private",
  "protected", "public", "return", "static", "super", "switch", "this", "throw", "true", "try",
  "typeof", "var", "void", "while", "with", "yield"]

/-- The name can be declared. -/
structure IsLegal (name : String) : Prop where
  spelled : IsSpelled name.toList
  free : name ∉ reservedWords

/-- The letters and numbers of a name, which are all that its words are made of. -/
def letters (name : String) : List Char := name.toList.filter isAlphanumeric

/-- The letters and numbers of the name may stand in an identifier. -/
def LettersFit (name : String) : Prop := ∀ c ∈ letters name, isNamePart c = true

/-- The first letter or number of the name starts an identifier, or is a digit that an underscore goes
before. -/
def StartFits (name : String) : Prop :=
  ∀ c ∈ (letters name).head?, isNameStart c = true ∨ isDigit c = true

/-! ## Words -/

theorem parts_flatten (chars : List Char) :
    ∀ part, (parts part chars).flatten = part ++ chars.filter isAlphanumeric := by
  induction chars with
  | nil =>
    intro part
    rw [parts]
    split
    case isTrue h => simp [List.isEmpty_iff.1 h]
    case isFalse => simp
  | cons c rest ih =>
    intro part
    rw [parts]
    split
    case isTrue hc => rw [ih, List.filter_cons_of_pos hc, List.append_assoc, List.singleton_append]
    case isFalse hc =>
      rw [List.filter_cons_of_neg hc]
      split
      case isTrue h => rw [ih, List.isEmpty_iff.1 h]
      case isFalse => rw [List.flatten_cons, ih, List.nil_append]

theorem nil_notMem_parts (chars : List Char) : ∀ part, [] ∉ parts part chars := by
  induction chars with
  | nil =>
    intro part
    rw [parts]
    split
    case isTrue => exact List.not_mem_nil
    case isFalse h => simpa using h
  | cons c rest ih =>
    intro part
    rw [parts]
    split
    · exact ih _
    · split
      case isTrue => exact ih _
      case isFalse h =>
        refine List.not_mem_cons_of_ne_of_not_mem ?_ (ih _)
        rintro rfl
        exact h rfl

/-- Cutting a text into words loses nothing. -/
theorem splitWord_flatten (run : Run) (word chars : List Char) (h : chars ≠ []) :
    (splitWord run word chars).flatten = word ++ chars := by
  fun_induction splitWord run word chars with
  | case1 => exact absurd rfl h
  | case2 => simp
  | case3 run word c d rest _ ih => simp [ih (List.cons_ne_nil _ _)]
  | case4 run word c d rest _ _ ih => simp [ih (List.cons_ne_nil _ _)]
  | case5 run word c d rest _ _ ih => simp [ih (List.cons_ne_nil _ _)]

/-- A word that is cut off has a letter, since there is a run of letters only behind one. -/
theorem nil_notMem_splitWord (run : Run) (word chars : List Char) (h : run ≠ .open → word ≠ []) :
    [] ∉ splitWord run word chars := by
  fun_induction splitWord run word chars with
  | case1 => exact List.not_mem_nil
  | case2 => simp
  | case3 run word c d rest _ ih => simpa using ih (absurd rfl)
  | case4 run word c d rest _ hcut ih =>
    have hword : word ≠ [] := h (by simp [hcut.1])
    simpa [hword.symm] using ih (absurd rfl)
  | case5 run word c d rest _ _ ih => exact ih fun _ => by simp

/-- What the words of a name are together. -/
def spoken (name : String) : List Char :=
  if letters name = [] then "unnamed".toList else letters name

theorem flatten_flatMap_splitWord {found : List (List Char)} (h : [] ∉ found) :
    (found.flatMap (splitWord .open [])).flatten = found.flatten := by
  induction found with
  | nil => rfl
  | cons part found ih =>
    obtain ⟨hpart, hfound⟩ := not_or.1 (List.mem_cons.not.1 h)
    rw [List.flatMap_cons, List.flatten_append, ih hfound, List.flatten_cons,
      splitWord_flatten _ _ _ (Ne.symm hpart), List.nil_append]

/-- The words of a name have all of its letters and numbers in their order, and none of them is empty. -/
theorem words_eq (name : String) : ∃ c word rest, words name = (c :: word) :: rest ∧
    spoken name = (c :: word) ++ rest.flatten := by
  have hparts := nil_notMem_parts name.toList []
  have hflatten := (flatten_flatMap_splitWord hparts).trans (parts_flatten name.toList [])
  have hnil : [] ∉ (parts [] name.toList).flatMap (splitWord .open []) := by
    rw [List.mem_flatMap]
    rintro ⟨part, -, hmem⟩
    exact nil_notMem_splitWord _ _ _ (absurd rfl) hmem
  unfold words spoken letters
  generalize (parts [] name.toList).flatMap (splitWord .open []) = found at hflatten hnil
  rw [List.nil_append] at hflatten
  match found, hflatten, hnil with
  | [], hflatten, _ =>
    rw [← hflatten]
    exact ⟨'u', "nnamed".toList, [], rfl, rfl⟩
  | [] :: _, _, hnil => exact absurd List.mem_cons_self hnil
  | (c :: word) :: rest, hflatten, _ =>
    rw [← hflatten, if_neg (by simp)]
    exact ⟨c, word, rest, rfl, rfl⟩

theorem spoken_parts (name : String) : (spoken name).all isNamePart = true ↔ LettersFit name := by
  unfold spoken LettersFit
  split
  case isTrue h =>
    rw [h]
    exact iff_of_true (by decide +kernel) (List.forall_mem_nil _)
  case isFalse => exact List.all_eq_true

/-! ## Casings -/

theorem smallWord_parts (word : List Char) : (smallWord word).all isNamePart = word.all isNamePart := by
  fun_induction smallWord word with
  | case1 => rfl
  | case2 => decide +kernel
  | case3 c => simpa using (small_isForm c).parts
  | case4 c rest _ ih => rw [List.all_append, ih, (small_isForm c).parts, List.all_cons]

theorem capitalWord_parts (word : List Char) :
    (capitalWord word).all isNamePart = word.all isNamePart := by
  cases word with
  | nil => rfl
  | cons c rest => rw [capitalWord, List.all_append, capital_parts, smallWord_parts, List.all_cons]

theorem flatMap_capitalWord_parts (words : List (List Char)) :
    (words.flatMap capitalWord).all isNamePart = words.flatten.all isNamePart := by
  rw [List.all_flatMap, List.all_flatten]
  exact congrArg (List.all words) (funext capitalWord_parts)

theorem smallWord_head (c : Char) (word : List Char) : ∃ first rest,
    smallWord (c :: word) = first :: rest ∧ isNameStart first = isNameStart c ∧
      isDigit first = isDigit c := by
  obtain ⟨first, rest, hform, hfirst⟩ := (small_isForm c).head
  cases word with
  | nil =>
    rw [smallWord]
    split
    case isTrue hc =>
      subst hc
      exact ⟨'ς', [], rfl, by decide +kernel, by decide⟩
    case isFalse => exact ⟨first, rest, hform, hfirst⟩
  | cons d word => exact ⟨first, rest ++ smallWord (d :: word), by simp [smallWord, hform], hfirst⟩

/-- An underscore before a digit makes the digit fit. -/
theorem isSpelled_escapeDigit {c : Char} {rest : List Char} : IsSpelled (escapeDigit (c :: rest)) ↔
    (isNameStart c = true ∨ isDigit c = true) ∧ (c :: rest).all isNamePart = true := by
  have hunderscore : isNameStart '_' = true := by decide
  unfold escapeDigit
  dsimp only
  split
  case isTrue hdigit =>
    rw [hdigit]
    refine ⟨fun h => ⟨.inr rfl, ?_⟩, fun h => ⟨⟨'_', rfl, hunderscore⟩, ?_⟩⟩
    · have hparts := h.parts
      rw [List.all_cons, Bool.and_eq_true_iff] at hparts
      exact hparts.2
    · rw [List.all_cons, isNamePart_of_start hunderscore, h.2]
      rfl
  case isFalse hdigit =>
    refine ⟨fun ⟨⟨d, hd, hstart⟩, hparts⟩ => ?_, fun ⟨hstart, hparts⟩ => ?_⟩
    · cases hd
      exact ⟨.inl hstart, hparts⟩
    · exact ⟨⟨c, rfl, hstart.resolve_right hdigit⟩, hparts⟩

theorem escapeDigit_parts (text : List Char) :
    (escapeDigit text).all isNamePart = text.all isNamePart := by
  unfold escapeDigit
  split
  · split
    · rw [List.all_cons, isNamePart_of_start (by decide), Bool.true_and]
    · rfl
  · rfl

/-- What is said of the first letter or number is said of the first character of the words, since a name
without letters and numbers is called by a letter. -/
theorem forall_head_letters {P : Char → Prop} {name : String} {c : Char} {more : List Char}
    (hunnamed : P 'u') (hspoken : spoken name = c :: more) :
    (∀ d ∈ (letters name).head?, P d) ↔ P c := by
  unfold spoken at hspoken
  split at hspoken
  case isTrue hnone =>
    cases hspoken
    rw [hnone]
    exact iff_of_true nofun hunnamed
  case isFalse =>
    rw [hspoken]
    simp

/-- A name in the casing of functions is spelled like an identifier if its letters and numbers may stand
in one and the first of them may be the first one, and only then. -/
theorem spelled_camel (name : String) :
    IsSpelled (camel name).toList ↔ LettersFit name ∧ StartFits name := by
  obtain ⟨c, word, rest, hwords, hspoken⟩ := words_eq name
  obtain ⟨first, more, hsmall, hstart, hdigit⟩ := smallWord_head c word
  have hcamel : (camel name).toList =
      escapeDigit (first :: (more ++ rest.flatMap capitalWord)) := by
    unfold camel
    rw [hwords]
    simp [hsmall]
  have hparts : (first :: (more ++ rest.flatMap capitalWord)).all isNamePart =
      (spoken name).all isNamePart := by
    rw [← List.cons_append, ← hsmall, hspoken, List.all_append, List.all_append, smallWord_parts,
      flatMap_capitalWord_parts]
  have hhead : StartFits name ↔ isNameStart c = true ∨ isDigit c = true :=
    forall_head_letters (.inl (by decide)) hspoken
  rw [hcamel, isSpelled_escapeDigit, hparts, spoken_parts, hstart, hdigit, hhead, and_comm]

/-- The first letter or number of the name starts an identifier in its capital form, or is a digit. -/
def CapitalStartFits (name : String) : Prop :=
  ∀ c ∈ (letters name).head?, (isNameStart c = true ∨ c = '\u0345') ∨ isDigit c = true

theorem pascal_toList (name : String) : ∃ c more first text, spoken name = c :: more ∧
    (pascal name).toList = escapeDigit (first :: text) ∧
    (isNameStart first = true ↔ isNameStart c = true ∨ c = '\u0345') ∧ isDigit first = isDigit c ∧
    (first :: text).all isNamePart = (spoken name).all isNamePart := by
  obtain ⟨c, word, rest, hwords, hspoken⟩ := words_eq name
  obtain ⟨first, more, hcapital, hdigit, hstart⟩ := capital_head c
  have htext : (words name).flatMap capitalWord =
      first :: (more ++ smallWord word ++ rest.flatMap capitalWord) := by
    rw [hwords, List.flatMap_cons, capitalWord, hcapital]
    rfl
  refine ⟨c, word ++ rest.flatten, first, more ++ smallWord word ++ rest.flatMap capitalWord, hspoken,
    ?_, hstart, hdigit, ?_⟩
  · rw [pascal, String.toList_ofList, htext]
  · rw [← htext, flatMap_capitalWord_parts, hspoken, hwords]
    rfl

/-- The same for a name in the casing of types, where the first letter is a capital. -/
theorem spelled_pascal (name : String) :
    IsSpelled (pascal name).toList ↔ LettersFit name ∧ CapitalStartFits name := by
  obtain ⟨c, more, first, text, hspoken, hpascal, hstart, hdigit, hparts⟩ := pascal_toList name
  have hhead : CapitalStartFits name ↔
      (isNameStart c = true ∨ c = '\u0345') ∨ isDigit c = true :=
    forall_head_letters (.inl (.inl (by decide))) hspoken
  rw [hpascal, isSpelled_escapeDigit, hparts, spoken_parts, hstart, hdigit, hhead, and_comm]

theorem pascal_parts (name : String) : (pascal name).toList.all isNamePart = true ↔ LettersFit name := by
  obtain ⟨_, _, _, _, _, hpascal, _, _, hparts⟩ := pascal_toList name
  rw [hpascal, escapeDigit_parts, hparts, spoken_parts]

theorem pascal_ne_nil (name : String) : (pascal name).toList ≠ [] := by
  obtain ⟨_, _, _, _, _, hpascal, _⟩ := pascal_toList name
  rw [hpascal, escapeDigit]
  split <;> simp

/-! ## Names of operations -/

/-- No reserved word begins like this. -/
def IsFreeStart (start : String) : Prop := ∀ word ∈ reservedWords, ¬start.toList <+: word.toList

instance (start : String) : Decidable (IsFreeStart start) :=
  List.decidableBAll _ reservedWords

/-- After a start that no reserved word has, only the characters of a name count. -/
theorem isLegal_append {start : String} (hstart : IsSpelled start.toList) (hfree : IsFreeStart start)
    (name : String) : IsLegal (start ++ name) ↔ name.toList.all isNamePart = true := by
  obtain ⟨⟨c, hc, hletter⟩, hparts⟩ := hstart
  constructor
  case mp =>
    intro h
    have hall := h.spelled.parts
    rw [String.toList_append, List.all_append, Bool.and_eq_true_iff] at hall
    exact hall.2
  case mpr =>
    intro h
    -- A reserved word with this name would begin as no reserved word does.
    refine ⟨⟨⟨c, ?_, hletter⟩, ?_⟩, fun hmem => hfree _ hmem ?_⟩
    · rw [String.toList_append, List.head?_append, Option.mem_def.1 hc]
      rfl
    · rw [String.toList_append, List.all_append, hparts, h]
      rfl
    · exact ⟨name.toList, String.toList_append.symm⟩

theorem isLegal_handler (name : String) :
    IsLegal (pascal name ++ "Handler") ↔ LettersFit name ∧ CapitalStartFits name := by
  have hsmall : ∀ word ∈ reservedWords, 'H' ∉ word.toList := by decide +kernel
  have hhandler : "Handler".toList.all isNamePart = true := by decide +kernel
  obtain ⟨c, rest, hpascal⟩ := List.exists_cons_of_ne_nil (pascal_ne_nil name)
  rw [← spelled_pascal]
  constructor
  case mp =>
    rintro ⟨⟨⟨d, hd, hstart⟩, hparts⟩, -⟩
    rw [String.toList_append, List.all_append, hhandler, Bool.and_true] at hparts
    rw [String.toList_append, hpascal] at hd
    exact ⟨⟨d, by rw [hpascal]; exact hd, hstart⟩, hparts⟩
  case mpr =>
    rintro ⟨⟨d, hd, hstart⟩, hparts⟩
    rw [hpascal] at hd
    refine ⟨⟨⟨d, by rw [String.toList_append, hpascal]; exact hd, hstart⟩, ?_⟩, fun hmem => ?_⟩
    · rw [String.toList_append, List.all_append, hhandler, hparts]
      rfl
    · -- Reserved words have no capitals.
      refine hsmall _ hmem ?_
      rw [String.toList_append]
      exact List.mem_append_right _ (.head _)

/-! ## Names of components -/

/-- The characters of identifiers that generated code uses are among those of the language. -/
theorem fits_of_identifierPart {c : Char} (h : isIdentifierPart c = true) :
    isNamePart c = true ∧ (isNameStart c = true ∨ isDigit c = true) := by
  have hstart (first last : Nat) (hmem : (first, last, 1) ∈ startRuns) (hlow : first ≤ c.toNat)
      (hhigh : c.toNat ≤ last) : isNameStart c = true :=
    List.any_eq_true.2 ⟨_, hmem, by simp [Run.contains, hlow, hhigh, Nat.mod_one]⟩
  have hsort : isNameStart c = true ∨ isDigit c = true := by
    simp only [isIdentifierPart, Char.isAlphanum, Char.isAlpha, Char.isUpper, Char.isLower,
      Char.isDigit, Bool.or_eq_true, Bool.and_eq_true, decide_eq_true_eq, beq_iff_eq] at h
    rcases h with (((hupper | hlower) | hdigit) | rfl) | rfl
    · exact .inl (hstart 0x41 0x5a (.tail _ (.tail _ (.head _))) hupper.1 hupper.2)
    · exact .inl (hstart 0x61 0x7a (.tail _ (.tail _ (.tail _ (.head _)))) hlower.1 hlower.2)
    · exact .inr (Bool.and_eq_true_iff.2 ⟨decide_eq_true hdigit.1, decide_eq_true hdigit.2⟩)
    · exact .inl (hstart 0x5f 0x5f (.tail _ (.head _)) le_rfl le_rfl)
    · exact .inl (hstart 0x24 0x24 (.head _) le_rfl le_rfl)
  exact ⟨hsort.elim isNamePart_of_start isNamePart_of_digit, hsort⟩

theorem spelled_identifier (text : String) : IsSpelled (identifier text).toList := by
  have hmapped (c : Char) : isIdentifierPart (if isIdentifierPart c then c else '_') = true := by
    split
    case isTrue hc => exact hc
    case isFalse => rfl
  unfold identifier
  cases text.toList with
  | nil => exact ⟨⟨'_', rfl, by decide⟩, by decide +kernel⟩
  | cons c rest =>
    dsimp only
    rw [String.toList_ofList, List.map_cons]
    refine isSpelled_escapeDigit.2 ⟨(fits_of_identifierPart (hmapped c)).2, ?_⟩
    rw [List.all_eq_true]
    exact List.forall_mem_cons.2 ⟨(fits_of_identifierPart (hmapped c)).1,
      List.forall_mem_map.2 fun d _ => (fits_of_identifierPart (hmapped d)).1⟩

/-- The identifier of a component can be declared unless it is reserved. -/
theorem isLegal_identifier (text : String) :
    IsLegal (identifier text) ↔ identifier text ∉ reservedWords :=
  ⟨fun h => h.free, fun h => ⟨spelled_identifier text, h⟩⟩

theorem capitalized_parts {name : String} (h : name.toList.all isNamePart = true) :
    (capitalized name).toList.all isNamePart = true := by
  unfold capitalized
  split
  · rfl
  case h_2 c rest heq =>
    rw [heq, List.all_cons, Bool.and_eq_true_iff] at h
    rw [String.toList_ofList, List.all_append, capital_parts, h.1, h.2]
    rfl

end Name

/-! ## Files -/

namespace Document

variable {document : Document} {key name : String}

theorem IsNamed.componentName (h : document.IsNamed) :
    ∀ name ∈ document.componentNames, ∃ text, name = Name.identifier text := by
  refine List.forall_mem_map.2 fun entry hentry => ?_
  exact refName_eq_identifier (h entry hentry)

theorem IsNamed.isLegal_iff (h : document.IsNamed) (hname : name ∈ document.componentNames) :
    Name.IsLegal name ↔ name ∉ Name.reservedWords := by
  obtain ⟨text, rfl⟩ := h.componentName name hname
  exact Name.isLegal_identifier text

/-- A verb before the name of a component makes a legal name. -/
theorem IsNamed.isLegal_append (h : document.IsNamed) {start : String}
    (hstart : Name.IsSpelled start.toList) (hfree : Name.IsFreeStart start)
    (hname : name ∈ document.componentNames) : Name.IsLegal (start ++ Name.capitalized name) := by
  obtain ⟨text, rfl⟩ := h.componentName name hname
  exact (Name.isLegal_append hstart hfree _).2
    (Name.capitalized_parts (Name.spelled_identifier text).parts)

end Document

namespace Plan

/-- The names that the file declares can all be declared: whatever is made of the keys and titles of
components with a verb before it can be, a type can unless its name is reserved, and what is made of the
identifier of an operation can if its letters and numbers, and the first of them, fit; a function of a
client must not be reserved either. -/
inductive DeclaresLegally (document : Document) (file : File) : Prop
  | types (path : file.path = "types.ts")
    (legal : (∀ name ∈ file.content.declaredNames, Name.IsLegal name) ↔
      ∀ name ∈ document.componentNames, name ∉ Name.reservedWords)
  | validators (path : file.path = "validators.ts")
    (legal : ∀ name ∈ file.content.declaredNames, Name.IsLegal name)
  | client {operations : List ResolvedOperation} (path : file.path = "client.ts")
    (named : document.operations = .ok operations)
    (legal : (∀ name ∈ file.content.declaredNames, Name.IsLegal name) ↔ ∀ o ∈ operations,
      (Name.LettersFit o.id ∧ Name.StartFits o.id) ∧ o.functionName ∉ Name.reservedWords)
  | handlerTypes {operations : List ResolvedOperation} (path : file.path = "server-types.ts")
    (named : document.operations = .ok operations)
    (legal : (∀ name ∈ file.content.declaredNames, Name.IsLegal name) ↔
      ∀ o ∈ operations, Name.LettersFit o.id ∧ Name.CapitalStartFits o.id)
  | server {operations : List ResolvedOperation} (path : file.path = "server.ts")
    (named : document.operations = .ok operations)
    (legal : (∀ name ∈ file.content.declaredNames, Name.IsLegal name) ↔
      ∀ o ∈ operations, Name.LettersFit o.id)

end Plan

theorem Compiler.typeNames_legal (c : Compiler) (hnamed : c.document.IsNamed) :
    (∀ name ∈ c.typeNames, Name.IsLegal name) ↔
      ∀ name ∈ c.document.componentNames, name ∉ Name.reservedWords := by
  have hverb (d : Direction) : Name.IsSpelled d.verb.toList ∧ Name.IsFreeStart d.verb := by
    cases d
    · exact ⟨⟨⟨'p', rfl, by decide⟩, by decide +kernel⟩, by decide +kernel⟩
    · exact ⟨⟨⟨'s', rfl, by decide⟩, by decide +kernel⟩, by decide +kernel⟩
  have hconversion (d : Direction) : ∀ name ∈ c.conversionNames d, Name.IsLegal name := by
    refine List.forall_mem_map.2 fun name hname => ?_
    obtain ⟨entry, hentry, rfl⟩ := List.mem_map.1 hname
    exact hnamed.isLegal_append (hverb d).1 (hverb d).2
      (List.mem_map_of_mem (List.mem_of_mem_filter hentry))
  have hmem (name : String) : name ∈ c.typeNames ↔ name ∈ c.document.componentNames ∨
      name ∈ c.conversionNames .parse ∨ name ∈ c.conversionNames .serialize := by
    rw [c.typeNames_perm.mem_iff, List.mem_append, List.mem_append]
  constructor
  · exact fun h name hname => (h name ((hmem name).2 (.inl hname))).free
  · intro h name hname
    rcases (hmem name).1 hname with hname | hname | hname
    · exact (hnamed.isLegal_iff hname).2 (h name hname)
    · exact hconversion _ name hname
    · exact hconversion _ name hname

theorem Document.validatorNames_legal {document : Document} (hnamed : document.IsNamed) :
    ∀ name ∈ document.validatorNames, Name.IsLegal name := by
  refine List.forall_mem_cons.2 ⟨⟨⟨⟨'v', rfl, by decide⟩, by decide +kernel⟩, by decide⟩, ?_⟩
  refine List.forall_mem_map.2 fun name hname => ?_
  exact hnamed.isLegal_append ⟨⟨'v', rfl, by decide⟩, by decide +kernel⟩ (by decide +kernel) hname

theorem clientNames_legal (operations : List ResolvedOperation) (server : Option String) :
    (∀ name ∈ clientNames operations server, Name.IsLegal name) ↔ ∀ o ∈ operations,
      (Name.LettersFit o.id ∧ Name.StartFits o.id) ∧ o.functionName ∉ Name.reservedWords := by
  have hserver : ∀ name ∈ (server.map fun _ => "defaultServer").toList, Name.IsLegal name := by
    cases server with
    | none => exact List.forall_mem_nil _
    | some url =>
      have hurl : Name.IsLegal "defaultServer" :=
        ⟨⟨⟨'d', rfl, by decide⟩, by decide +kernel⟩, by decide⟩
      exact List.forall_mem_singleton.2 hurl
  have hfunction (o : ResolvedOperation) : Name.IsLegal o.functionName ↔
      (Name.LettersFit o.id ∧ Name.StartFits o.id) ∧ o.functionName ∉ Name.reservedWords := by
    rw [← Name.spelled_camel]
    exact ⟨fun h => ⟨h.spelled, h.free⟩, fun h => ⟨h.1, h.2⟩⟩
  rw [clientNames, List.forall_mem_append, and_iff_right hserver, List.forall_mem_map]
  exact forall₂_congr fun o _ => hfunction o

theorem handlerTypeNames_legal (operations : List ResolvedOperation) :
    (∀ name ∈ handlerTypeNames operations, Name.IsLegal name) ↔
      ∀ o ∈ operations, Name.LettersFit o.id ∧ Name.CapitalStartFits o.id := by
  have hrecord : ∀ name ∈ ["Handlers"], Name.IsLegal name :=
    List.forall_mem_singleton.2 ⟨⟨⟨'H', rfl, by decide⟩, by decide +kernel⟩, by decide⟩
  rw [handlerTypeNames, List.forall_mem_append, and_iff_left hrecord, List.forall_mem_map]
  exact forall₂_congr fun o _ => Name.isLegal_handler o.id

theorem serverNames_legal (operations : List ResolvedOperation) :
    (∀ name ∈ serverNames operations, Name.IsLegal name) ↔
      ∀ o ∈ operations, Name.LettersFit o.id := by
  have hroutes : ∀ name ∈ ["routes"], Name.IsLegal name :=
    List.forall_mem_singleton.2 ⟨⟨⟨'r', rfl, by decide⟩, by decide +kernel⟩, by decide⟩
  have hhandle : Name.IsSpelled "handle".toList := ⟨⟨'h', rfl, by decide⟩, by decide +kernel⟩
  rw [serverNames, List.forall_mem_append, and_iff_left hroutes, List.forall_mem_map]
  exact forall₂_congr fun o _ =>
    (Name.isLegal_append hhandle (by decide +kernel) _).trans (Name.pascal_parts o.id)

namespace Plan

variable {plan : Plan}

/-- In every file that is generated, all names are legal declarations if and only if those of the
components are not reserved, or what is said of the identifiers of operations holds of them. -/
theorem generate_declaresLegally {config : Config} {document : Document} {files : List File}
    {issued issued' : List Warning} (hplan : Plan.ofConfig config = .ok plan)
    (h : plan.generate document issued = (.ok files, issued')) :
    ∀ file ∈ files, DeclaresLegally document file := by
  have hmade := formats_isMade hplan
  refine forall_of_generate rfl rfl (fun file hfile => ?_) ⟨issued, issued', h⟩
  rcases hfile with h | h | h | h | h
  · obtain ⟨hpath, hnamed, hnames⟩ := typesFile_names hmade h
    exact .types hpath (hnames ▸ Compiler.typeNames_legal _ hnamed)
  · obtain ⟨hpath, hnamed, hnames⟩ := validatorsFile_names hmade h
    exact .validators hpath (hnames ▸ Document.validatorNames_legal hnamed)
  · obtain ⟨hpath, operations, hoperations, hnames⟩ := clientFile_names hmade h
    exact .client hpath hoperations (hnames ▸ clientNames_legal operations _)
  · obtain ⟨hpath, operations, hoperations, hnames⟩ := handlerTypesFile_names hmade h
    exact .handlerTypes hpath hoperations (hnames ▸ handlerTypeNames_legal operations)
  · obtain ⟨hpath, operations, hoperations, hnames⟩ := serverFile_names hmade h
    exact .server hpath hoperations (hnames ▸ serverNames_legal operations)

/-- All files for a document whose component and operation have plain names. -/
theorem generate_declaresLegally_decimals : ∃ plan files issued, Plan.ofConfig decimals = .ok plan ∧
    plan.generate priceDocument [] = (.ok files, issued) ∧
    files.map (·.path) = ["types.ts", "validators.ts", "client.ts", "server-types.ts", "server.ts"] ∧
    ∀ file ∈ files, DeclaresLegally priceDocument file := by
  obtain ⟨plan, hplan, h⟩ := Except.eq_ok_of_any
    (show (Plan.ofConfig decimals).toOption.any (fun plan =>
      (plan.generate priceDocument []).1.toOption.any fun files => files.map (·.path) ==
        ["types.ts", "validators.ts", "client.ts", "server-types.ts", "server.ts"]) = true by
      decide +kernel)
  obtain ⟨files, hfiles, hpaths⟩ := Except.pair_eq_ok_of_any h
  exact ⟨plan, files, _, hplan, hfiles, beq_iff_eq.1 hpaths, generate_declaresLegally hplan hfiles⟩

/-- A configuration of which the types and the client are generated. -/
def typesAndClient : Config where
  targets := { validators := false, server := false }

/-- A document whose component is called by a word of the language, as one of its operations is, while
the name of the other operation begins with a digit that is none of those of the language. -/
def orders : Json := .object [("openapi", .string "3.0.3"),
  ("info", .object [("title", .string "Orders"), ("version", .string "1")]),
  ("paths", .object [("/orders", .object [
    ("get", .object [("operationId", .string "٣rdOrder"),
      ("responses", .object [("204", .object [("description", .string "none")])])]),
    ("delete", .object [("operationId", .string "delete"),
      ("responses", .object [("204", .object [("description", .string "none")])])])])]),
  ("components", .object [("schemas", .object [("default", .object [("type", .string "string")])])])]

/-- Types and client are generated for it, and no name that they declare is legal. -/
theorem orders_declared_illegally : ∃ document plan types client issued,
    Document.ofJson orders = .ok document ∧ Plan.ofConfig typesAndClient = .ok plan ∧
    plan.generate document [] = (.ok [types, client], issued) ∧
    types.content.declaredNames = ["default"] ∧ client.content.declaredNames = ["٣rdOrder", "delete"] ∧
    ∀ name ∈ types.content.declaredNames ++ client.content.declaredNames, ¬Name.IsLegal name := by
  obtain ⟨document, hdocument, h⟩ := Except.eq_ok_of_any
    (show (Document.ofJson orders).toOption.any (fun document =>
      (document.operations.toOption.any fun operations =>
        clientNames operations document.spec.defaultServer == ["٣rdOrder", "delete"]) &&
      (Plan.ofConfig typesAndClient).toOption.any fun plan =>
        (plan.generate document []).1.toOption.any fun files =>
          files.map (·.path) == ["types.ts", "client.ts"] &&
            (files.head?.map (·.content.declaredNames)) == some ["default"]) = true by
      decide +kernel)
  obtain ⟨hoperations, h⟩ := Bool.and_eq_true_iff.1 h
  obtain ⟨operations, hoperations, hnames⟩ := Except.eq_ok_of_any hoperations
  obtain ⟨plan, hplan, h⟩ := Except.eq_ok_of_any h
  obtain ⟨files, hfiles, h⟩ := Except.pair_eq_ok_of_any h
  obtain ⟨hpaths, htypes⟩ := Bool.and_eq_true_iff.1 h
  -- The names of the client are those of the operations; reading them off its text takes far longer.
  have hclients : ∀ file ∈ files, file.path = "client.ts" →
      file.content.declaredNames = ["٣rdOrder", "delete"] := by
    refine forall_of_generate rfl rfl (fun file hfile hpath => ?_) ⟨_, _, hfiles⟩
    have hother {path : String} {c : Compiler} {siblings : List (String × String)}
        {write : Compiler → Write Code} (hne : path ≠ "client.ts")
        (h : Yields.yields (plan.file path c siblings write) file) : False :=
      hne ((file_eq h).1.symm.trans hpath)
    rcases hfile with h | h | h | h | h
    · exact (hother (by decide) h).elim
    · exact (hother (by decide) h).elim
    · obtain ⟨-, _, hfound, hdeclared⟩ := clientFile_names (formats_isMade hplan) h
      cases hoperations.symm.trans hfound
      rw [hdeclared, beq_iff_eq.1 hnames]
    · exact (hother (by decide) h).elim
    · exact (hother (by decide) h).elim
  have hpaths := beq_iff_eq.1 hpaths
  obtain ⟨types, client, rfl⟩ := List.length_eq_two.1
    ((List.length_map _).symm.trans (congrArg List.length hpaths))
  have htypes : types.content.declaredNames = ["default"] := Option.some.inj (beq_iff_eq.1 htypes)
  have hclient : client.content.declaredNames = ["٣rdOrder", "delete"] :=
    hclients client (by simp) (List.cons.inj (List.cons.inj hpaths).2).1
  have hdigit : ¬Name.IsLegal "٣rdOrder" := fun h => by
    obtain ⟨c, hc, hstart⟩ := h.spelled.start
    cases hc
    exact absurd hstart (by decide +kernel)
  have hword {name : String} (hname : name ∈ Name.reservedWords) : ¬Name.IsLegal name :=
    fun h => h.free hname
  refine ⟨document, plan, types, client, _, hdocument, hplan, hfiles, htypes, hclient, ?_⟩
  rw [htypes, hclient]
  simp only [List.cons_append, List.nil_append, List.forall_mem_cons]
  exact ⟨hword (by decide), hdigit, hword (by decide), List.forall_mem_nil _⟩

end Plan

end OpenApi

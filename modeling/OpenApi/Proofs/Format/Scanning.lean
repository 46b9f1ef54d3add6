import Mathlib
import OpenApi.Proofs.Format.Occurrences
import OpenApi.Text.Split

/-!
How a body is scanned, piece by piece. What the scan does next hangs on its state alone, so the holes of a
body are those of its parts, each scanned from the state in which the parts before it leave off (`Passes`).
-/

namespace OpenApi.Template

/-! ## Places of holes -/

/-- There is a hole after the text `front`, where the parameter stands for the holes before it. -/
def HoleAfter (parameter : String) (pieces : List Piece) (front : List Char) : Prop :=
  ∃ before after, pieces = before ++ .hole :: after ∧ (fill parameter before).toList = front

section Holes

variable {parameter : String} {pieces : List Piece} {front : List Char}

theorem holeAfter_cons {piece : Piece} : HoleAfter parameter (piece :: pieces) front ↔
    (piece = .hole ∧ front = []) ∨
      ∃ rest, front = (piece.filled parameter).toList ++ rest ∧
        HoleAfter parameter pieces rest := by
  constructor
  case mp =>
    rintro ⟨before, after, heq, hfront⟩
    cases before with
    | nil =>
      obtain ⟨rfl, -⟩ := List.cons.inj heq
      exact .inl ⟨rfl, hfront.symm⟩
    | cons first before =>
      obtain ⟨rfl, hrest⟩ := List.cons.inj heq
      rw [fill_cons, String.toList_append] at hfront
      exact .inr ⟨_, hfront.symm, before, after, hrest, rfl⟩
  case mpr =>
    rintro (⟨rfl, rfl⟩ | ⟨rest, rfl, before, after, rfl, rfl⟩)
    · exact ⟨[], pieces, rfl, rfl⟩
    · exact ⟨piece :: before, after, rfl, by rw [fill_cons, String.toList_append]⟩

/-- Text in front moves the holes after it. -/
theorem holeAfter_prepend (text : List Char) :
    HoleAfter parameter (prepend text pieces) (text ++ front) ↔
      HoleAfter parameter pieces front := by
  unfold prepend
  split
  case h_1 => simp [holeAfter_cons, Piece.filled]
  case h_2 =>
    split
    case isTrue hempty => rw [List.isEmpty_iff.1 hempty, List.nil_append]
    case isFalse => simp [holeAfter_cons, Piece.filled]

theorem not_holeAfter_prepend {text : List Char} (h : text ≠ []) :
    ¬HoleAfter parameter (prepend text pieces) [] := by
  unfold prepend
  split
  case h_1 => simp [holeAfter_cons, Piece.filled, h]
  case h_2 =>
    split
    case isTrue hempty => exact absurd (List.isEmpty_iff.1 hempty) h
    case isFalse => simp [holeAfter_cons, Piece.filled, h]

/-- The holes after a hole stand after the parameter. -/
theorem holeAfter_hole (h : parameter ≠ "") :
    HoleAfter parameter (.hole :: pieces) (parameter.toList ++ front) ↔
      HoleAfter parameter pieces front := by
  simp [holeAfter_cons, Piece.filled, h]

theorem holeAfter_hole_self : HoleAfter parameter (.hole :: pieces) [] :=
  holeAfter_cons.2 (.inl ⟨rfl, rfl⟩)

end Holes

/-! ## Steps of the scan -/

/-- From the state `s` the scan goes over `text` to the state `s'`: the holes after `text` are those of
what follows. -/
def Passes (parameter : List Char) (s : Scan) (text : List Char) (s' : Scan) (rest : List Char) : Prop :=
  ∀ front, HoleAfter (String.ofList parameter) (split parameter s (text ++ rest)) (text ++ front) ↔
    HoleAfter (String.ofList parameter) (split parameter s' rest) front

section Steps

variable {parameter : List Char} {s s' s'' : Scan} {text text' rest : List Char}

theorem Passes.nil : Passes parameter s [] s rest := fun _ => Iff.rfl

theorem Passes.trans (h : Passes parameter s text s' (text' ++ rest))
    (h' : Passes parameter s' text' s'' rest) : Passes parameter s (text ++ text') s'' rest := by
  intro front
  rw [List.append_assoc, List.append_assoc, h, h']

theorem Passes.of_eq (h : split parameter s (text ++ rest) = prepend text (split parameter s' rest)) :
    Passes parameter s text s' rest := by
  intro front
  rw [h, holeAfter_prepend]

variable {mode : Mode} {outer : List Mode} {previous : Option Char} {c mark : Char} {depth : Nat}

/-! In string literals. -/

theorem passes_openQuote (hmark : mark = '"' ∨ mark = '\'') :
    Passes parameter ⟨.code depth, outer, previous⟩ [mark]
      ⟨.quote mark, .code depth :: outer, previous⟩ rest := by
  refine .of_eq ?_
  rw [List.singleton_append, split.eq_def]
  exact if_pos hmark

theorem passes_quoteEscape (c : Char) :
    Passes parameter ⟨.quote mark, outer, previous⟩ ['\\', c] ⟨.quote mark, outer, previous⟩ rest := by
  refine .of_eq ?_
  rw [List.cons_append, split.eq_def]
  rfl

theorem passes_quoteChar (hescape : c ≠ '\\') (hmark : c ≠ mark) :
    Passes parameter ⟨.quote mark, outer, previous⟩ [c] ⟨.quote mark, outer, previous⟩ rest := by
  refine .of_eq ?_
  rw [List.singleton_append, split.eq_def]
  exact (if_neg hescape).trans (if_neg hmark)

theorem passes_closeQuote (hescape : mark ≠ '\\') :
    Passes parameter ⟨.quote mark, mode :: outer, previous⟩ [mark] ⟨mode, outer, some mark⟩ rest := by
  refine .of_eq ?_
  rw [List.singleton_append, split.eq_def]
  exact (if_neg hescape).trans (if_pos rfl)

/-! In template literals. -/

theorem passes_openLiteral :
    Passes parameter ⟨.code depth, outer, previous⟩ ['\x60']
      ⟨.literal, .code depth :: outer, previous⟩ rest := by
  refine .of_eq ?_
  rw [List.singleton_append, split.eq_def]
  rfl

theorem passes_literalEscape (c : Char) :
    Passes parameter ⟨.literal, outer, previous⟩ ['\\', c] ⟨.literal, outer, previous⟩ rest := by
  refine .of_eq ?_
  rw [List.cons_append, split.eq_def]
  rfl

theorem passes_literalChar (hescape : c ≠ '\\') (hclose : c ≠ '\x60')
    (hhole : c = '$' → rest.head? ≠ some '\x7b') :
    Passes parameter ⟨.literal, outer, previous⟩ [c] ⟨.literal, outer, previous⟩ rest := by
  refine .of_eq ?_
  rw [List.singleton_append, split.eq_def]
  refine (if_neg hescape).trans ((if_neg hclose).trans ?_)
  cases rest with
  | nil =>
    rw [split.eq_def]
  | cons d rest => exact if_neg fun h => hhole h.1 (congrArg some h.2)

theorem passes_closeLiteral :
    Passes parameter ⟨.literal, mode :: outer, previous⟩ ['\x60'] ⟨mode, outer, some '\x60'⟩ rest := by
  refine .of_eq ?_
  rw [List.singleton_append, split.eq_def]
  rfl

theorem passes_openHole :
    Passes parameter ⟨.literal, outer, previous⟩ ['$', '\x7b']
      ⟨.code 0, .literal :: outer, some '\x7b'⟩ rest := by
  refine .of_eq ?_
  rw [List.cons_append, split.eq_def]
  rfl

/-! In code. -/

theorem passes_openBrace :
    Passes parameter ⟨.code depth, outer, previous⟩ ['\x7b']
      ⟨.code (depth + 1), outer, some '\x7b'⟩ rest := by
  refine .of_eq ?_
  rw [List.singleton_append, split.eq_def]
  rfl

theorem passes_closeBrace :
    Passes parameter ⟨.code depth, outer, previous⟩ ['\x7d']
      (Scan.closeBrace ⟨.code depth, outer, previous⟩ depth) rest := by
  refine .of_eq ?_
  rw [List.singleton_append, split.eq_def]
  rfl

/-- Characters that change what the scan is inside of. -/
def isDelimiter (c : Char) : Bool :=
  c == '"' || c == '\'' || c == '\x60' || c == '\x7b' || c == '\x7d'

theorem not_isDelimiter (h : isDelimiter c = false) :
    ¬(c = '"' ∨ c = '\'') ∧ c ≠ '\x60' ∧ c ≠ '\x7b' ∧ c ≠ '\x7d' := by
  simpa [isDelimiter, and_assoc] using h

theorem isDelimiter_eq_false (h : Name.isIdentifierPart c = true) : isDelimiter c = false := by
  refine Bool.eq_false_iff.2 fun hdelimiter => ?_
  simp only [isDelimiter, Bool.or_eq_true, beq_iff_eq] at hdelimiter
  rcases hdelimiter with (((rfl | rfl) | rfl) | rfl) | rfl <;> cases h

theorem isIdentifierPart_of_isDigit (h : c.isDigit = true) : Name.isIdentifierPart c = true := by
  simp [Name.isIdentifierPart, Char.isAlphanum, h]

theorem toNat_of_isIdentifierStart (h : Name.isIdentifierStart c = true) :
    (65 ≤ c.toNat ∧ c.toNat ≤ 90) ∨ (97 ≤ c.toNat ∧ c.toNat ≤ 122) ∨ c.toNat = 95 ∨ c.toNat = 36 := by
  simp only [Name.isIdentifierStart, Char.isAlpha, Char.isUpper, Char.isLower, Bool.or_eq_true,
    Bool.and_eq_true, decide_eq_true_eq, beq_iff_eq, ge_iff_le, UInt32.le_iff_toNat_le,
    UInt32.reduceToNat, Char.reduceVal, Char.toNat_val] at h
  rcases h with (h | rfl) | rfl
  · omega
  · decide
  · decide

theorem toNat_of_isDigit (h : c.isDigit = true) : 48 ≤ c.toNat ∧ c.toNat ≤ 57 := by
  simpa only [Char.isDigit, Bool.and_eq_true, decide_eq_true_eq, ge_iff_le, UInt32.le_iff_toNat_le,
    UInt32.reduceToNat, Char.reduceVal, Char.toNat_val] using h

theorem isDigit_eq_false (h : Name.isIdentifierStart c = true) : c.isDigit = false := by
  refine Bool.eq_false_iff.2 fun hdigit => ?_
  have hstart := toNat_of_isIdentifierStart h
  have hdigit := toNat_of_isDigit hdigit
  omega

theorem split_code (h : isDelimiter c = false) :
    split parameter ⟨.code depth, outer, previous⟩ (c :: rest) =
      if c.isDigit then
        prepend (c :: rest.takeWhile isNumberPart)
          (split parameter ⟨.code depth, outer, some '0'⟩ (rest.dropWhile isNumberPart))
      else if Name.isIdentifierStart c then
        if c :: rest.takeWhile Name.isIdentifierPart = parameter ∧ previous ≠ some '.' then
          .hole :: split parameter ⟨.code depth, outer, some 'a'⟩ (rest.dropWhile Name.isIdentifierPart)
        else
          prepend (c :: rest.takeWhile Name.isIdentifierPart)
            (split parameter ⟨.code depth, outer, some 'a'⟩ (rest.dropWhile Name.isIdentifierPart))
      else
        prepend [c]
          (split parameter ⟨.code depth, outer, if Text.isBlank c then previous else some c⟩ rest) := by
  obtain ⟨hquote, hliteral, hopen, hclose⟩ := not_isDelimiter h
  rw [split.eq_def]
  exact (if_neg hquote).trans ((if_neg hliteral).trans ((if_neg hopen).trans (if_neg hclose)))

theorem passes_number (h : c.isDigit = true) (hall : ∀ d ∈ text, isNumberPart d = true)
    (hstops : ∀ d ∈ rest.head?, isNumberPart d = false) :
    Passes parameter ⟨.code depth, outer, previous⟩ (c :: text) ⟨.code depth, outer, some '0'⟩ rest := by
  refine .of_eq ?_
  obtain ⟨htake, hdrop⟩ := Text.span_append hall hstops
  rw [List.cons_append, split_code (isDelimiter_eq_false (isIdentifierPart_of_isDigit h)), if_pos h,
    htake, hdrop]

theorem split_word (h : Name.isIdentifierStart c = true) (text : List Char) :
    split parameter ⟨.code depth, outer, previous⟩ (c :: text) =
      if c :: text.takeWhile Name.isIdentifierPart = parameter ∧ previous ≠ some '.' then
        .hole :: split parameter ⟨.code depth, outer, some 'a'⟩ (text.dropWhile Name.isIdentifierPart)
      else
        prepend (c :: text.takeWhile Name.isIdentifierPart)
          (split parameter ⟨.code depth, outer, some 'a'⟩ (text.dropWhile Name.isIdentifierPart)) := by
  rw [split_code (isDelimiter_eq_false (isIdentifierPart_of_isIdentifierStart h)), isDigit_eq_false h,
    if_pos h]
  rfl

theorem passes_word (h : Name.isIdentifierStart c = true)
    (hall : ∀ d ∈ text, Name.isIdentifierPart d = true)
    (hstops : ∀ d ∈ rest.head?, Name.isIdentifierPart d = false) :
    Passes parameter ⟨.code depth, outer, previous⟩ (c :: text) ⟨.code depth, outer, some 'a'⟩ rest := by
  obtain ⟨htake, hdrop⟩ := Text.span_append hall hstops
  intro front
  rw [List.cons_append, split_word h, htake, hdrop]
  split
  case isTrue hword =>
    obtain ⟨rfl, -⟩ := hword
    have hne : String.ofList (c :: text) ≠ "" := by simp
    refine Iff.trans ?_ (holeAfter_hole hne)
    rw [String.toList_ofList]
  case isFalse => exact holeAfter_prepend _

/-- A word is a hole if it is the parameter and no dot stands before it. -/
theorem holeAfter_word (h : Name.isIdentifierStart c = true) (text : List Char) :
    HoleAfter (String.ofList parameter) (split parameter ⟨.code depth, outer, previous⟩ (c :: text)) []
      ↔ c :: text.takeWhile Name.isIdentifierPart = parameter ∧ previous ≠ some '.' := by
  rw [split_word h]
  split
  case isTrue hword => exact iff_of_true holeAfter_hole_self hword
  case isFalse hword => exact iff_of_false (not_holeAfter_prepend (List.cons_ne_nil _ _)) hword

theorem passes_mark (hdelimiter : isDelimiter c = false) (hdigit : c.isDigit = false)
    (hstart : Name.isIdentifierStart c = false) :
    Passes parameter ⟨.code depth, outer, previous⟩ [c]
      ⟨.code depth, outer, if Text.isBlank c then previous else some c⟩ rest := by
  refine .of_eq ?_
  rw [List.singleton_append, split_code hdelimiter, hdigit, hstart]
  rfl

/-! ## Runs of code without delimiters -/

/-- The last character that is no blank, `previous` if there is none. -/
def lastMark (previous : Option Char) (text : List Char) : Option Char :=
  text.foldl (fun last c => if Text.isBlank c then last else some c) previous

/-- Where a text has no last character of its own but the dot, it has the dot whatever stands before it. -/
theorem lastMark_eq_dot {x : Char} (hx : x ≠ '.') (h : lastMark (some x) text = some '.')
    (previous : Option Char) : lastMark previous text = some '.' := by
  induction text generalizing previous x with
  | nil => exact absurd (Option.some.inj h) hx
  | cons c text ih =>
    rw [lastMark, List.foldl_cons] at h ⊢
    by_cases hblank : Text.isBlank c = true
    case pos =>
      rw [if_pos hblank] at h ⊢
      exact ih hx h previous
    case neg =>
      rw [if_neg hblank] at h ⊢
      exact h

theorem lastMark_append (previous : Option Char) (text text' : List Char) :
    lastMark previous (text ++ text') = lastMark (lastMark previous text) text' :=
  List.foldl_append

/-- Characters that a word or a number goes on in. -/
def isRunPart (c : Char) : Bool := Name.isIdentifierPart c || c == '.'

theorem isRunPart_of_isNumberPart (h : isNumberPart c = true) : isRunPart c = true := by
  simp only [isNumberPart, Bool.or_eq_true] at h
  rcases h with h | h <;> simp [isRunPart, Name.isIdentifierPart, h]

/-- No word and no number at the end of `text` goes on in `rest`. -/
def Parted (text rest : List Char) : Prop :=
  ∀ c ∈ text.getLast?, isRunPart c = true → ∀ d ∈ rest.head?, isRunPart d = false

/-- A run at the start of a text stops in it, or in front of what is parted from it. -/
theorem Parted.stops {p : Char → Bool} (hp : ∀ d, p d = true → isRunPart d = true)
    (h : Parted (c :: text) rest) (hc : p c = true) :
    (∀ d ∈ (text.dropWhile p ++ rest).head?, p d = false) ∧ Parted (text.dropWhile p) rest := by
  have hwhole := List.takeWhile_append_dropWhile (p := p) (l := text)
  cases hdrop : text.dropWhile p with
  | cons d after =>
    have hd : p d = false := by
      have hhead := List.head?_dropWhile_not p text
      rw [hdrop] at hhead
      simpa using hhead
    refine ⟨fun e he => ?_, fun e he hpart => h e ?_ hpart⟩
    · obtain rfl := Option.some.inj he
      exact hd
    · rw [← hwhole, hdrop, ← List.cons_append, List.getLast?_append, he]
      rfl
  | nil =>
    rw [hdrop, List.append_nil] at hwhole
    have hall : ∀ d ∈ c :: text, p d = true :=
      List.forall_mem_cons.2 ⟨hc, fun d hd => List.all_eq_true.1
        (List.all_takeWhile (p := p) (l := text)) d (hwhole.symm ▸ hd)⟩
    have hlast : ∃ e ∈ (c :: text).getLast?, p e = true :=
      ⟨_, List.getLast?_eq_some_getLast (List.cons_ne_nil c text), hall _ (List.getLast_mem _)⟩
    obtain ⟨e, he, hpart⟩ := hlast
    refine ⟨fun d hd => ?_, by simp [Parted]⟩
    rw [Bool.eq_false_iff]
    intro hpd
    have hrun := h e he (hp e hpart) d hd
    rw [hp d hpd] at hrun
    cases hrun

/-- Over `text` the scan stays in code, and has read a dot last only if the text ends in one. -/
def StaysInCode (parameter : List Char) (depth : Nat) (outer : List Mode) (previous : Option Char)
    (text rest : List Char) : Prop :=
  ∃ last, Passes parameter ⟨.code depth, outer, previous⟩ text ⟨.code depth, outer, last⟩ rest ∧
    (last = some '.' → lastMark previous text = some '.')

theorem StaysInCode.run {x : Char} (hx : x ≠ '.')
    (hrun : Passes parameter ⟨.code depth, outer, previous⟩ text ⟨.code depth, outer, some x⟩
      (text' ++ rest))
    (h : StaysInCode parameter depth outer (some x) text' rest) :
    StaysInCode parameter depth outer previous (text ++ text') rest := by
  obtain ⟨last, hlast, hdot⟩ := h
  refine ⟨last, hrun.trans hlast, fun heq => ?_⟩
  rw [lastMark_append]
  exact lastMark_eq_dot hx (hdot heq) _

/-- Text without delimiters is read as words, numbers and single characters. -/
theorem staysInCode_plain (hplain : ∀ d ∈ text, isDelimiter d = false) (hparted : Parted text rest) :
    StaysInCode parameter depth outer previous text rest := by
  -- Words and numbers are taken as far as they go, so the induction is on the length.
  induction hlength : text.length using Nat.strongRecOn generalizing text previous with
  | ind n ih =>
  subst hlength
  cases text with
  | nil => exact ⟨previous, .nil, id⟩
  | cons c text =>
    obtain ⟨hc, htext⟩ := List.forall_mem_cons.1 hplain
    have later {p : Char → Bool} {x : Char} (hparted : Parted (text.dropWhile p) rest) :
        StaysInCode parameter depth outer (some x) (text.dropWhile p) rest :=
      ih _ (Nat.lt_succ_of_le (List.dropWhile_suffix p).length_le)
        (fun d hd => htext d ((List.dropWhile_suffix p).mem hd)) hparted rfl
    cases hdigit : c.isDigit with
    | true =>
      have hpart : isNumberPart c = true := by simp [isNumberPart, Char.isAlphanum, hdigit]
      obtain ⟨hstops, hafter⟩ := hparted.stops (fun _ => isRunPart_of_isNumberPart) hpart
      rw [← List.takeWhile_append_dropWhile (p := isNumberPart) (l := text), ← List.cons_append]
      exact (later hafter).run (by decide)
        (passes_number hdigit (List.all_eq_true.1 List.all_takeWhile) hstops)
    | false =>
      cases hstart : Name.isIdentifierStart c with
      | true =>
        have hpart := isIdentifierPart_of_isIdentifierStart hstart
        obtain ⟨hstops, hafter⟩ := hparted.stops
          (fun d hd => show isRunPart d = true by simp [isRunPart, hd]) hpart
        rw [← List.takeWhile_append_dropWhile (p := Name.isIdentifierPart) (l := text),
          ← List.cons_append]
        exact (later hafter).run (by decide)
          (passes_word hstart (List.all_eq_true.1 List.all_takeWhile) hstops)
      | false =>
        have hafter : Parted text rest := by
          cases text with
          | nil => simp [Parted]
          | cons d text => exact hparted
        obtain ⟨last, hlast, hdot⟩ := ih _ (Nat.lt_succ_self _) htext hafter rfl
        exact ⟨last, (passes_mark hc hdigit hstart).trans hlast, hdot⟩

end Steps

end OpenApi.Template

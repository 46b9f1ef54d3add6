import OpenApi.Proofs.Code.Lexing

/-!
Code that is put together from pieces. Most pieces are texts that the compiler writes as they stand, and
the brackets that such texts open and close, from one piece to the next, can be followed without a look
at what stands between them, if that is sound by itself (`Fits.reads`). Where two pieces meet, the end of
one and the beginning of the other must not make up something else: a comment, an identifier, a call, or
a member of one of the modules that a file may import under a name of its own.
-/

namespace OpenApi

namespace Lex

/-- The names under which files import the modules that the code refers to by members. -/
def aliases : List (List Char) :=
  [['R', 'u', 'n', 't', 'i', 'm', 'e'], ['T', 'y', 'p', 'e', 's'], ['q', 's']]

/-- The functions that the compilers call in texts of their own: those of the language and of the runtime,
and those that the files make themselves. -/
def vocabulary : List (List Char) :=
  [['M', 'a', 'l', 'f', 'o', 'r', 'm', 'e', 'd', 'E', 'r', 'r', 'o', 'r'],
    ['S', 't', 'r', 'i', 'n', 'g'], ['m', 'a', 't', 'c', 'h', 'e', 's'], ['t', 'e', 'x', 't'],
    ['h', 'a', 'n', 'd', 'l', 'e', 'r'], ['m', 'a', 'p'],
    ['v', 'a', 'l', 'i', 'd', 'a', 't', 'o', 'r'],
    ['c', 'r', 'e', 'a', 't', 'e', 'V', 'a', 'l', 'i', 'd', 'a', 't', 'o', 'r'],
    ['s', 'e', 'n', 'd'],
    ['s', 'e', 'n', 'd', 'A', 'u', 't', 'h', 'e', 'n', 't', 'i', 'c', 'a', 't', 'e', 'd'],
    ['s', 't', 'r', 'i', 'n', 'g', 'i', 'f', 'y'], ['p', 'a', 'r', 's', 'e'],
    ['r', 'o', 'u', 't', 'e', 's'], ['a', 'c', 'c', 'e', 'p', 't', 's'],
    ['e', 'n', 'c', 'o', 'd', 'e', 'U', 'R', 'I', 'C', 'o', 'm', 'p', 'o', 'n', 'e', 'n', 't'],
    ['h', 'e', 'a', 'd', 'e', 'r'], ['q', 'u', 'e', 'r', 'y'], ['N', 'u', 'm', 'b', 'e', 'r'],
    ['t', 'r', 'i', 'm'], ['i', 's', 'N', 'a', 'N'], ['b', 'y', 't', 'e', 's'],
    ['i', 's', 'I', 'n', 't', 'e', 'g', 'e', 'r'], ['p', 'a', 't', 'h', 'P', 'a', 'r', 'a', 'm'],
    ['f', 'r', 'o', 'm', 'E', 'n', 't', 'r', 'i', 'e', 's'], ['e', 'n', 't', 'r', 'i', 'e', 's'],
    ['n', 'o', 't', 'A', 'c', 'c', 'e', 'p', 't', 'a', 'b', 'l', 'e'],
    ['i', 'n', 'c', 'l', 'u', 'd', 'e', 's'], ['i', 's', 'A', 'r', 'r', 'a', 'y'],
    ['c', 'o', 'o', 'k', 'i', 'e'], ['c', 'o', 'o', 'k', 'i', 'e', 'H', 'e', 'a', 'd', 'e', 'r'],
    ['R', 'e', 'g', 'E', 'x', 'p'], ['t', 'e', 's', 't'], ['j', 'o', 'i', 'n'], ['a', 'b', 's'],
    ['r', 'o', 'u', 'n', 'd'], ['f', 'l', 'a', 't'], ['t', 'o', 'S', 't', 'r', 'i', 'n', 'g']]

example : vocabulary.map String.ofList =
    ["MalformedError", "String", "matches", "text", "handler", "map", "validator",
      "createValidator", "send", "sendAuthenticated", "stringify", "parse", "routes",
      "accepts", "encodeURIComponent", "header", "query", "Number", "trim", "isNaN", "bytes",
      "isInteger", "pathParam", "fromEntries", "entries", "notAcceptable", "includes",
      "isArray", "cookie", "cookieHeader", "RegExp", "test", "join", "abs", "round", "flat",
      "toString"] := by
  decide

/-- Nothing passes but what always does: words that are no names of modules, and, where calls are guarded,
calls of functions of the vocabulary. -/
def strict (guarded : Bool) : Rules where
  mayAccess word := !aliases.contains word
  mayHide _ := false
  mayCall word := !guarded || word.isEmpty || vocabulary.contains word

theorem strict_refines_everything (guarded : Bool) : (strict guarded).Refines everything :=
  refines_everything fun _ => rfl

/-! ## What is known of pieces -/

section

variable (r : Rules) (gs : List Glyph)

/-- The text can be read to its end, and closes all the brackets that it opens. -/
def Sound : Prop := ∃ s, readAll r {} gs = some s ∧ s.AtRest

/-- Besides, a dot may follow. -/
def Value : Prop := ∃ s, readAll r {} gs = some s ∧ s.AtRest ∧ r.isValue s.word = true

/-- Besides, arguments may follow. -/
def Callee : Prop := ∃ s, readAll r {} gs = some s ∧ s.AtRest ∧ r.mayCall s.word = true

/-- Besides, nothing of the text is left that could be part of something else. -/
def Complete : Prop := readAll r {} gs = some {}

end

/-- Characters that mean nothing by themselves. -/
def isOrdinary (c : Char) : Bool :=
  match c with
  | '(' | ')' | '[' | ']' | '\x7b' | '\x7d' | '"' | '\'' | '\x60' | '/' | '.' => false
  | _ => true

/-- A text of such characters. -/
def Ordinary (gs : List Glyph) : Prop := ∃ cs : List Char, gs = cs.map .char ∧ cs.all isOrdinary = true

/-- The word that a text of such characters ends in, if it follows a word. -/
def endWord (word cs : List Char) : List Char :=
  cs.foldl (fun word c => if Name.isIdentifierPart c then word ++ [c] else []) word

variable {r : Rules} {guarded : Bool} {s s' : State} {gs : List Glyph}

theorem strict_isValue_nil : (strict guarded).isValue [] = true := rfl

theorem vocabulary_identifierPart : ∀ word ∈ vocabulary, word.all Name.isIdentifierPart = true := by
  decide

theorem strict_mayCall_of_mem {word : List Char} (h : word ∈ vocabulary) :
    (strict guarded).mayCall word = true := by
  simp [strict, h]

theorem Value.sound (h : Value r gs) : Sound r gs := by
  obtain ⟨s, hs, hrest, _⟩ := h
  exact ⟨s, hs, hrest⟩

theorem Complete.value (hr : (strict guarded).Refines r) (h : Complete r gs) : Value r gs :=
  ⟨{}, h, ⟨rfl, .inl rfl⟩, hr.isValue strict_isValue_nil⟩

theorem Sound.reads (h : Sound r gs) (opened : List Bracket) :
    ∃ s, readAll r (.code opened) gs = some s ∧ s.opened = opened ∧
      (s.mode = .code ∨ s.mode = .slash) := by
  obtain ⟨s, hs, hopened, hmode⟩ := h
  exact ⟨s.below opened, readAll_below hs opened, by rw [State.below, hopened]; rfl, hmode⟩

theorem Value.reads (h : Value r gs) (opened : List Bracket) :
    ∃ s, readAll r (.code opened) gs = some s ∧ s.opened = opened ∧
      (s.mode = .code ∨ s.mode = .slash) ∧ r.isValue s.word = true := by
  obtain ⟨s, hs, ⟨hopened, hmode⟩, hword⟩ := h
  exact ⟨s.below opened, readAll_below hs opened, by rw [State.below, hopened]; rfl, hmode, hword⟩

theorem Callee.reads (h : Callee r gs) (opened : List Bracket) :
    ∃ s, readAll r (.code opened) gs = some s ∧ s.opened = opened ∧
      (s.mode = .code ∨ s.mode = .slash) ∧ r.mayCall s.word = true := by
  obtain ⟨s, hs, ⟨hopened, hmode⟩, hword⟩ := h
  exact ⟨s.below opened, readAll_below hs opened, by rw [State.below, hopened]; rfl, hmode, hword⟩

theorem Complete.reads (h : Complete r gs) (opened : List Bracket) :
    readAll r (.code opened) gs = some (.code opened) :=
  readAll_below h opened

theorem readCode_ordinary {c : Char} (h : isOrdinary c = true) :
    readCode r s c =
      some ⟨.code, s.opened, if Name.isIdentifierPart c then s.word ++ [c] else []⟩ := by
  unfold readCode
  split
  case h_12 => split <;> rfl
  all_goals cases h

theorem readAll_ordinary {cs : List Char} (h : cs.all isOrdinary = true) (opened : List Bracket)
    (word : List Char) :
    readAll r ⟨.code, opened, word⟩ (cs.map .char) = some ⟨.code, opened, endWord word cs⟩ := by
  induction cs generalizing word with
  | nil => rfl
  | cons c cs ih =>
    obtain ⟨hc, hcs⟩ := Bool.and_eq_true_iff.1 (List.all_cons.symm.trans h)
    rw [List.map_cons, readAll, read, readChar, readCode_ordinary hc, Option.bind_some, ih hcs]
    rfl

theorem endWord_of_all {cs : List Char} (h : cs.all Name.isIdentifierPart = true) (word : List Char) :
    endWord word cs = word ++ cs := by
  induction cs generalizing word with
  | nil => exact (List.append_nil word).symm
  | cons c cs ih =>
    obtain ⟨hc, hcs⟩ := Bool.and_eq_true_iff.1 (List.all_cons.symm.trans h)
    rw [endWord, List.foldl_cons, if_pos hc, ← endWord, ih hcs, List.append_assoc]
    rfl

theorem endWord_identifierPart {word : List Char} (hword : word.all Name.isIdentifierPart = true)
    (cs : List Char) : (endWord word cs).all Name.isIdentifierPart = true := by
  induction cs generalizing word with
  | nil => exact hword
  | cons c cs ih =>
    rw [endWord, List.foldl_cons, ← endWord]
    split
    case isTrue hc => exact ih (by simp [hword, hc])
    case isFalse => exact ih rfl

/-! ## Following the brackets from piece to piece -/

/-- A piece: a text that is given, or another one of which only so much is known. -/
inductive Piece where
  | text (text : List Char)
  | sound
  | value
  | callee
  | complete
  | ordinary
  deriving DecidableEq, Repr

/-- What is known of the state between two characters: the state itself, or that the reader is in code
after a piece, and whether a dot or arguments may follow there. -/
inductive Front where
  | here (s : State)
  | after (opened : List Bracket) (isValue isCallee : Bool)
  deriving DecidableEq, Repr

namespace Front

section

variable (guarded : Bool)

/-- Past a character of a given text. It must not carry on what the piece before it may end in. -/
def char : Front → Char → Option Front
  | here s, c => (readChar (strict guarded) s c).map here
  | after opened isValue isCallee, c =>
    if c = '*' || Name.isIdentifierPart c then none
    else if c = '.' then if isValue then some (here (.code opened)) else none
    else if c = '(' then
      if isCallee || !guarded then some (here (.code (.paren :: opened))) else none
    else (readCode (strict guarded) (.code opened) c).map here

/-- Past a given text. -/
def text (f : Front) : List Char → Option Front
  | [] => some f
  | c :: rest => (f.char guarded c).bind fun f => text f rest

end

/-- The open brackets, if the reader is in code and past everything. -/
def rested? : Front → Option (List Bracket)
  | here ⟨.code, opened, []⟩ => some opened
  | _ => none

/-- The open brackets, if the reader is in code, perhaps in an identifier. -/
def inCode? : Front → Option (List Bracket)
  | here ⟨.code, opened, _⟩ => some opened
  | _ => none

/-- Past a piece. -/
def piece (guarded : Bool) (f : Front) : Piece → Option Front
  | .text text => f.text guarded text
  | .sound => f.rested?.map (after · false false)
  | .value => f.rested?.map (after · true false)
  | .callee => f.rested?.map (after · false true)
  | .complete => f.rested?.map fun opened => here (.code opened)
  | .ordinary => f.inCode?.map (after · false false)

/-- Past pieces one after the other. -/
def pieces (guarded : Bool) (f : Front) : List Piece → Option Front
  | [] => some f
  | p :: rest => (f.piece guarded p).bind fun f => pieces guarded f rest

theorem rested?_eq_some {f : Front} {opened : List Bracket} (h : f.rested? = some opened) :
    f = here (.code opened) := by
  unfold rested? at h
  split at h
  · cases h
    rfl
  · cases h

theorem inCode?_eq_some {f : Front} {opened : List Bracket} (h : f.inCode? = some opened) :
    ∃ word, f = here ⟨.code, opened, word⟩ := by
  unfold inCode? at h
  split at h
  · cases h
    exact ⟨_, rfl⟩
  · cases h

/-- The state is one of those that are meant. -/
def Meets (r : Rules) (s : State) : Front → Prop
  | here known => s = known
  | after opened isValue isCallee => s.opened = opened ∧ (s.mode = .code ∨ s.mode = .slash) ∧
    (isValue = true → r.isValue s.word = true) ∧ (isCallee = true → r.mayCall s.word = true)

end Front

/-- The texts are such pieces. -/
inductive Fits (r : Rules) : List Piece → List (List Glyph) → Prop
  | nil : Fits r [] []
  | text {text : List Char} {ps : List Piece} {gss : List (List Glyph)} (rest : Fits r ps gss) :
    Fits r (.text text :: ps) (text.map .char :: gss)
  | sound {gs : List Glyph} {ps : List Piece} {gss : List (List Glyph)} (h : Sound r gs)
    (rest : Fits r ps gss) : Fits r (.sound :: ps) (gs :: gss)
  | value {gs : List Glyph} {ps : List Piece} {gss : List (List Glyph)} (h : Value r gs)
    (rest : Fits r ps gss) : Fits r (.value :: ps) (gs :: gss)
  | callee {gs : List Glyph} {ps : List Piece} {gss : List (List Glyph)} (h : Callee r gs)
    (rest : Fits r ps gss) : Fits r (.callee :: ps) (gs :: gss)
  | complete {gs : List Glyph} {ps : List Piece} {gss : List (List Glyph)} (h : Complete r gs)
    (rest : Fits r ps gss) : Fits r (.complete :: ps) (gs :: gss)
  | ordinary {gs : List Glyph} {ps : List Piece} {gss : List (List Glyph)} (h : Ordinary gs)
    (rest : Fits r ps gss) : Fits r (.ordinary :: ps) (gs :: gss)

section

variable {f f' : Front}

/-- A character that carries nothing on is read as it is at the beginning of code. -/
theorem readCode_after (hr : (strict guarded).Refines r) {c : Char} {opened : List Bracket}
    (hopened : s.opened = opened) (hpart : Name.isIdentifierPart c = false) (hdot : c ≠ '.')
    (hparen : c ≠ '(') (h : readCode (strict guarded) (.code opened) c = some s') :
    readCode r s c = some s' := by
  replace h := readCode_of_refines hr h
  subst hopened
  unfold readCode at h ⊢
  split at h
  case h_1 => exact absurd rfl hparen
  case h_11 => exact absurd rfl hdot
  case h_12 => rw [hpart] at h ⊢; exact h
  all_goals exact h

/-- Where no comment can begin, a slash before makes no difference. -/
theorem readChar_eq_readCode {c : Char} (hmode : s.mode = .code ∨ s.mode = .slash) (hstar : c ≠ '*') :
    readChar r s c = readCode r s c := by
  obtain ⟨mode, opened, word⟩ := s
  rcases hmode with rfl | rfl
  · rfl
  · exact if_neg hstar

/-- After a piece, the next character must be one that cannot be part of it, and a dot and a parenthesis
must be allowed. -/
theorem Front.Meets.charAfter (hr : (strict guarded).Refines r) {c : Char} {opened : List Bracket}
    {isValue isCallee : Bool} (h : (after opened isValue isCallee).char guarded c = some f')
    (hs : (after opened isValue isCallee).Meets r s) :
    ∃ s', readCode r s c = some s' ∧ c ≠ '*' ∧ f'.Meets r s' := by
  obtain ⟨hopened, -, hvalue, hcallee⟩ := hs
  obtain ⟨mode, opened', word⟩ := s
  subst hopened
  dsimp only [Front.char] at h
  split at h
  case isTrue => cases h
  case isFalse hc =>
    obtain ⟨hstar, hpart⟩ : c ≠ '*' ∧ Name.isIdentifierPart c = false := by simpa using hc
    split at h
    case isTrue hdot =>
      subst hdot
      cases isValue with
      | false => cases h
      | true =>
        cases h
        have hword := hvalue rfl
        refine ⟨⟨.code, opened', r.behind word⟩, if_pos (Bool.and_eq_true_iff.1 hword).1, hstar, ?_⟩
        rw [Rules.behind_of_isValue hword]
        rfl
    case isFalse hdot =>
    split at h
    case isTrue hparen =>
      subst hparen
      split at h
      case isFalse => cases h
      case isTrue hcall =>
        cases h
        have hword : r.mayCall word = true := by
          rcases Bool.or_eq_true_iff.1 hcall with hcall | hcall
          · exact hcallee hcall
          · exact hr.call word (by simp [strict, hcall])
        exact ⟨_, if_pos hword, hstar, rfl⟩
    case isFalse hparen =>
      obtain ⟨s', hs', rfl⟩ := Option.map_eq_some_iff.1 h
      exact ⟨s', readCode_after hr rfl hpart hdot hparen hs', hstar, rfl⟩

theorem Front.Meets.char (hr : (strict guarded).Refines r) {c : Char}
    (h : f.char guarded c = some f') (hs : f.Meets r s) :
    ∃ s', read r s (.char c) = some s' ∧ f'.Meets r s' := by
  cases f with
  | here known =>
    obtain rfl : s = known := hs
    obtain ⟨s', hs', rfl⟩ := Option.map_eq_some_iff.1 h
    exact ⟨s', readChar_of_refines hr hs', rfl⟩
  | after opened isValue isCallee =>
    obtain ⟨s', hs', hstar, hmeets⟩ := hs.charAfter hr h
    exact ⟨s', (readChar_eq_readCode hs.2.1 hstar).trans hs', hmeets⟩

theorem Front.Meets.text (hr : (strict guarded).Refines r) {text : List Char}
    (h : f.text guarded text = some f') (hs : f.Meets r s) :
    ∃ s', readAll r s (text.map .char) = some s' ∧ f'.Meets r s' := by
  induction text generalizing f s with
  | nil =>
    cases h
    exact ⟨s, rfl, hs⟩
  | cons c rest ih =>
    obtain ⟨next, hnext, h⟩ := Option.bind_eq_some_iff.1 h
    obtain ⟨s₁, hs₁, hmeets⟩ := Front.Meets.char hr hnext hs
    obtain ⟨s', hs', hmeets'⟩ := ih h hmeets
    exact ⟨s', Option.bind_eq_some_iff.2 ⟨s₁, hs₁, hs'⟩, hmeets'⟩

/-- Pieces that have to be sound by themselves begin where nothing of the text before is left. -/
theorem Front.Meets.rested {next : List Bracket → Front} (h : f.rested?.map next = some f')
    (hs : f.Meets r s) : ∃ opened, s = .code opened ∧ f' = next opened := by
  obtain ⟨opened, hopened, rfl⟩ := Option.map_eq_some_iff.1 h
  obtain rfl := Front.rested?_eq_some hopened
  exact ⟨opened, hs, rfl⟩

/-- If the brackets can be followed from piece to piece, the whole text is read. -/
theorem Fits.reads (hr : (strict guarded).Refines r) {ps : List Piece} {gss : List (List Glyph)}
    (hfits : Fits r ps gss) (h : f.pieces guarded ps = some f') (hs : f.Meets r s) :
    ∃ s', readAll r s gss.flatten = some s' ∧ f'.Meets r s' := by
  induction hfits generalizing f s with
  | nil =>
    cases h
    exact ⟨s, rfl, hs⟩
  | text _ ih =>
    obtain ⟨next, hnext, h⟩ := Option.bind_eq_some_iff.1 h
    obtain ⟨s₁, hs₁, hmeets⟩ := hs.text hr hnext
    obtain ⟨s', hs', hmeets'⟩ := ih h hmeets
    exact ⟨s', (readAll_append_of_eq_some hs₁).trans hs', hmeets'⟩
  | sound hgs _ ih =>
    obtain ⟨next, hnext, h⟩ := Option.bind_eq_some_iff.1 h
    obtain ⟨opened, rfl, rfl⟩ := hs.rested hnext
    obtain ⟨s₁, hs₁, hopened, hmode⟩ := hgs.reads opened
    obtain ⟨s', hs', hmeets'⟩ := ih h ⟨hopened, hmode, nofun, nofun⟩
    exact ⟨s', (readAll_append_of_eq_some hs₁).trans hs', hmeets'⟩
  | value hgs _ ih =>
    obtain ⟨next, hnext, h⟩ := Option.bind_eq_some_iff.1 h
    obtain ⟨opened, rfl, rfl⟩ := hs.rested hnext
    obtain ⟨s₁, hs₁, hopened, hmode, hword⟩ := hgs.reads opened
    obtain ⟨s', hs', hmeets'⟩ := ih h ⟨hopened, hmode, fun _ => hword, nofun⟩
    exact ⟨s', (readAll_append_of_eq_some hs₁).trans hs', hmeets'⟩
  | callee hgs _ ih =>
    obtain ⟨next, hnext, h⟩ := Option.bind_eq_some_iff.1 h
    obtain ⟨opened, rfl, rfl⟩ := hs.rested hnext
    obtain ⟨s₁, hs₁, hopened, hmode, hword⟩ := hgs.reads opened
    obtain ⟨s', hs', hmeets'⟩ := ih h ⟨hopened, hmode, nofun, fun _ => hword⟩
    exact ⟨s', (readAll_append_of_eq_some hs₁).trans hs', hmeets'⟩
  | complete hgs _ ih =>
    obtain ⟨next, hnext, h⟩ := Option.bind_eq_some_iff.1 h
    obtain ⟨opened, rfl, rfl⟩ := hs.rested hnext
    obtain ⟨s', hs', hmeets'⟩ := ih h rfl
    exact ⟨s', (readAll_append_of_eq_some (hgs.reads opened)).trans hs', hmeets'⟩
  | ordinary hgs _ ih =>
    obtain ⟨next, hnext, h⟩ := Option.bind_eq_some_iff.1 h
    obtain ⟨opened, hopened, rfl⟩ := Option.map_eq_some_iff.1 hnext
    obtain ⟨word, rfl⟩ := Front.inCode?_eq_some hopened
    obtain rfl : s = ⟨.code, opened, word⟩ := hs
    obtain ⟨cs, rfl, hcs⟩ := hgs
    obtain ⟨s', hs', hmeets'⟩ :=
      ih (s := ⟨.code, opened, endWord word cs⟩) h ⟨rfl, .inl rfl, nofun, nofun⟩
    exact ⟨s', (readAll_append_of_eq_some (readAll_ordinary hcs opened word)).trans hs', hmeets'⟩

end

/-! ## Whole texts -/

namespace Piece

/-- The brackets of the pieces close each other. -/
def close (ps : List Piece) (guarded : Bool := true) : Bool :=
  match Front.pieces guarded (.here {}) ps with
  | some (.here s) => s.opened.isEmpty && (s.mode == .code || s.mode == .slash)
  | some (.after opened _ _) => opened.isEmpty
  | none => false

/-- Besides, a dot may follow. -/
def closeValue (ps : List Piece) : Bool :=
  match Front.pieces true (.here {}) ps with
  | some (.here s) =>
    s.opened.isEmpty && (s.mode == .code || s.mode == .slash) && (strict true).isValue s.word
  | some (.after opened isValue _) => opened.isEmpty && isValue
  | none => false

/-- Besides, arguments may follow. -/
def closeCallee (ps : List Piece) : Bool :=
  match Front.pieces true (.here {}) ps with
  | some (.here s) =>
    s.opened.isEmpty && (s.mode == .code || s.mode == .slash) && (strict true).mayCall s.word
  | some (.after opened _ isCallee) => opened.isEmpty && isCallee
  | none => false

/-- Besides, nothing is left that could be part of something else. -/
def closeComplete (ps : List Piece) : Bool := Front.pieces true (.here {}) ps == some (.here {})

end Piece

section

variable {ps : List Piece} {gss : List (List Glyph)}

theorem Fits.toSound (hr : (strict guarded).Refines r) (hfits : Fits r ps gss)
    (h : Piece.close ps guarded = true) : Sound r gss.flatten := by
  unfold Piece.close at h
  split at h
  case h_1 s hpieces =>
    obtain ⟨s', hs', hmeets⟩ := hfits.reads hr hpieces rfl
    obtain rfl : s' = s := hmeets
    exact ⟨s', hs', by simpa [State.AtRest] using h⟩
  case h_2 opened isValue isCallee hpieces =>
    obtain ⟨s', hs', hopened, hmode, _⟩ := hfits.reads hr hpieces rfl
    exact ⟨s', hs', hopened.trans (List.isEmpty_iff.1 h), hmode⟩
  case h_3 => cases h

theorem Fits.toValue (hr : (strict true).Refines r) (hfits : Fits r ps gss)
    (h : Piece.closeValue ps = true) : Value r gss.flatten := by
  unfold Piece.closeValue at h
  split at h
  case h_1 s hpieces =>
    obtain ⟨s', hs', hmeets⟩ := hfits.reads hr hpieces rfl
    obtain rfl : s' = s := hmeets
    obtain ⟨hrest, hword⟩ := Bool.and_eq_true_iff.1 h
    exact ⟨s', hs', by simpa [State.AtRest] using hrest, hr.isValue hword⟩
  case h_2 opened isValue isCallee hpieces =>
    obtain ⟨s', hs', hopened, hmode, hword, _⟩ := hfits.reads hr hpieces rfl
    obtain ⟨hempty, hvalue⟩ := Bool.and_eq_true_iff.1 h
    exact ⟨s', hs', ⟨hopened.trans (List.isEmpty_iff.1 hempty), hmode⟩, hword hvalue⟩
  case h_3 => cases h

theorem Fits.toCallee (hr : (strict true).Refines r) (hfits : Fits r ps gss)
    (h : Piece.closeCallee ps = true) : Callee r gss.flatten := by
  unfold Piece.closeCallee at h
  split at h
  case h_1 s hpieces =>
    obtain ⟨s', hs', hmeets⟩ := hfits.reads hr hpieces rfl
    obtain rfl : s' = s := hmeets
    obtain ⟨hrest, hword⟩ := Bool.and_eq_true_iff.1 h
    exact ⟨s', hs', by simpa [State.AtRest] using hrest, hr.call _ hword⟩
  case h_2 opened isValue isCallee hpieces =>
    obtain ⟨s', hs', hopened, hmode, _, hword⟩ := hfits.reads hr hpieces rfl
    obtain ⟨hempty, hcallee⟩ := Bool.and_eq_true_iff.1 h
    exact ⟨s', hs', ⟨hopened.trans (List.isEmpty_iff.1 hempty), hmode⟩, hword hcallee⟩
  case h_3 => cases h

theorem Fits.toComplete (hr : (strict true).Refines r) (hfits : Fits r ps gss)
    (h : Piece.closeComplete ps = true) : Complete r gss.flatten := by
  obtain ⟨s', hs', hmeets⟩ := hfits.reads hr (eq_of_beq h) rfl
  obtain rfl : s' = {} := hmeets
  exact hs'

end

end Lex

end OpenApi

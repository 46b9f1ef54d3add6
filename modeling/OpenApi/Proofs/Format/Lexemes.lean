import OpenApi.Proofs.Format.Scanning

/-!
Where the parameter of a template is used, and where it is replaced. A body is read here as the script is
that it becomes part of, lexeme by lexeme, with the comments and the patterns that the scan of a template
knows nothing about (`Lexed`). Where comments and patterns hold nothing that the scan takes for something
else, it is in code wherever a lexeme begins (`Lexed.passes`), and so it replaces the parameter wherever it
is used except after a dot, be it that of a member access or the last one of a spread (`new_replaces`).
-/

namespace OpenApi.Template

/-! ## Lexemes -/

/-- What a lexeme is. -/
inductive Lexeme.Kind where
  | blank
  | comment
  /-- a regular expression up to its flags -/
  | pattern
  | word
  | number
  | string
  /-- a template literal, or what is left of it between its holes -/
  | literal
  /-- the dot, or question mark and dot, in front of a property name -/
  | access
  | spread
  | mark
  deriving DecidableEq, Repr

/-- A part of a script that is read as one. -/
structure Lexeme where
  kind : Lexeme.Kind
  text : List Char
  deriving DecidableEq, Repr

def isLineEnd (c : Char) : Bool := c == '\n' || c == '\r' || c == '\u2028' || c == '\u2029'

/-- The text of a string literal between its quotes. -/
inductive StringText (mark : Char) : List Char → Prop
  | nil : StringText mark []
  | escape (c : Char) {text : List Char} : StringText mark text → StringText mark ('\\' :: c :: text)
  | char {c : Char} {text : List Char} : c ≠ '\\' → c ≠ mark → StringText mark text →
      StringText mark (c :: text)

/-- The text of a template literal up to its end or the next hole. -/
inductive LiteralText : List Char → Prop
  | nil : LiteralText []
  | escape (c : Char) {text : List Char} : LiteralText text → LiteralText ('\\' :: c :: text)
  | char {c : Char} {text : List Char} : c ≠ '\\' → c ≠ '\x60' → (c = '$' → text.head? ≠ some '\x7b') →
      LiteralText text → LiteralText (c :: text)

/-- What consists of such characters does not go on in `rest`. -/
def EndsBefore (p : Char → Bool) (rest : List Char) : Prop := ∀ d ∈ rest.head?, p d = false

instance (p : Char → Bool) (rest : List Char) : Decidable (EndsBefore p rest) :=
  decidable_of_iff (rest.head?.all fun d => !p d) (by cases rest <;> simp [EndsBefore])

/-- One more brace is open in the innermost hole. Outside of holes braces are not counted. -/
def deeper : List Nat → List Nat
  | [] => []
  | depth :: holes => (depth + 1) :: holes

/-- Inside of the holes `holes` of template literals, innermost first and each with the number of braces
that are open in it, `text` is a lexeme of a kind in front of `rest`, and leaves the holes `holes'`.
Whether a slash begins a pattern or divides is left open: a text may be read in more than one way. -/
inductive IsLexeme :
    Lexeme.Kind → (text : List Char) → (holes holes' : List Nat) → (rest : List Char) → Prop
  | blank {c : Char} {holes : List Nat} {rest : List Char} : Text.isBlank c = true →
      IsLexeme .blank [c] holes holes rest
  | lineComment {text : List Char} {holes : List Nat} {rest : List Char} :
      text.any isLineEnd = false → (∀ d ∈ rest.head?, isLineEnd d = true) →
      IsLexeme .comment ('/' :: '/' :: text) holes holes rest
  | blockComment {text : List Char} {holes : List Nat} {rest : List Char} : ¬['*', '/'] <:+: text →
      IsLexeme .comment ('/' :: '*' :: text ++ ['*', '/']) holes holes rest
  | pattern {c : Char} {text : List Char} {holes : List Nat} {rest : List Char} : c ≠ '/' → c ≠ '*' →
      (c :: text).any isLineEnd = false →
      IsLexeme .pattern ('/' :: c :: text ++ ['/']) holes holes rest
  | word {c : Char} {text : List Char} {holes : List Nat} {rest : List Char} :
      Name.isIdentifierStart c = true → text.all Name.isIdentifierPart = true →
      EndsBefore Name.isIdentifierPart rest → IsLexeme .word (c :: text) holes holes rest
  | number {c : Char} {text : List Char} {holes : List Nat} {rest : List Char} : c.isDigit = true →
      text.all isNumberPart = true → EndsBefore isNumberPart rest →
      IsLexeme .number (c :: text) holes holes rest
  | fraction {c : Char} {text : List Char} {holes : List Nat} {rest : List Char} : c.isDigit = true →
      text.all isNumberPart = true → EndsBefore isNumberPart rest →
      IsLexeme .number ('.' :: c :: text) holes holes rest
  | string {mark : Char} {text : List Char} {holes : List Nat} {rest : List Char} :
      mark = '"' ∨ mark = '\'' → StringText mark text →
      IsLexeme .string (mark :: text ++ [mark]) holes holes rest
  | literal {text : List Char} {holes : List Nat} {rest : List Char} : LiteralText text →
      IsLexeme .literal ('\x60' :: text ++ ['\x60']) holes holes rest
  | literalHead {text : List Char} {holes : List Nat} {rest : List Char} : LiteralText text →
      IsLexeme .literal ('\x60' :: text ++ ['$', '\x7b']) holes (0 :: holes) rest
  | literalMiddle {text : List Char} {holes : List Nat} {rest : List Char} : LiteralText text →
      IsLexeme .literal ('\x7d' :: text ++ ['$', '\x7b']) (0 :: holes) (0 :: holes) rest
  | literalTail {text : List Char} {holes : List Nat} {rest : List Char} : LiteralText text →
      IsLexeme .literal ('\x7d' :: text ++ ['\x60']) (0 :: holes) holes rest
  | access {holes : List Nat} {rest : List Char} : EndsBefore Char.isDigit rest →
      ¬['.', '.'] <+: rest → IsLexeme .access ['.'] holes holes rest
  | optionalAccess {holes : List Nat} {rest : List Char} : EndsBefore Char.isDigit rest →
      IsLexeme .access ['?', '.'] holes holes rest
  | spread {holes : List Nat} {rest : List Char} : IsLexeme .spread ['.', '.', '.'] holes holes rest
  | openBrace {holes : List Nat} {rest : List Char} :
      IsLexeme .mark ['\x7b'] holes (deeper holes) rest
  | closeBrace {holes : List Nat} {rest : List Char} :
      IsLexeme .mark ['\x7d'] (deeper holes) holes rest
  | mark {c : Char} {holes : List Nat} {rest : List Char} : Text.isBlank c = false →
      isDelimiter c = false → c.isDigit = false → Name.isIdentifierStart c = false → c ≠ '.' →
      (c = '/' → EndsBefore (fun d => d = '/' ∨ d = '*') rest) →
      (c = '?' → rest.head? = some '.' → ¬EndsBefore Char.isDigit rest.tail) →
      IsLexeme .mark [c] holes holes rest

/-- The lexemes `before`, the last one first, have been read, which leaves the holes `holes` in front of
`rest`. -/
inductive Lexed : (before : List Lexeme) → (holes : List Nat) → (rest : List Char) → Prop
  | start {rest : List Char} : Lexed [] [] rest
  | next {lexeme : Lexeme} {before : List Lexeme} {holes holes' : List Nat} {rest : List Char} :
      Lexed before holes (lexeme.text ++ rest) → IsLexeme lexeme.kind lexeme.text holes holes' rest →
      Lexed (lexeme :: before) holes' rest

/-- The text of lexemes, the last one first. -/
def source : List Lexeme → List Char
  | [] => []
  | lexeme :: before => source before ++ lexeme.text

/-- A use of the parameter as a word of its own in a reading of a text. -/
structure Occurrence (parameter : String) (text : List Char) where
  before : List Lexeme
  holes : List Nat
  rest : List Char
  lexed : Lexed (⟨.word, parameter.toList⟩ :: before) holes rest
  whole : source before ++ (parameter.toList ++ rest) = text

/-- Dots that a name can follow. -/
@[simp] def Lexeme.Kind.isDot : Lexeme.Kind → Bool
  | .access | .spread => true
  | _ => false

/-- The last lexeme that is no blank. -/
def preceding (before : List Lexeme) : Option Lexeme := before.find? (·.kind ≠ .blank)

/-- The name of a property: a member access stands before it, with blanks and comments between them at
most. -/
def Occurrence.IsProperty {parameter : String} {text : List Char} (o : Occurrence parameter text) : Prop :=
  ∃ l ∈ o.before.find? fun l => l.kind ≠ .blank ∧ l.kind ≠ .comment, l.kind = .access

/-- What is spread: the spread operator stands before it, with blanks between them at most. -/
def Occurrence.IsSpread {parameter : String} {text : List Char} (o : Occurrence parameter text) : Prop :=
  ∃ l ∈ preceding o.before, l.kind = .spread

/-- A comment or pattern in which there is nothing that the scan takes for something else: neither
quotes nor braces, nor a dot at the end. -/
def Lexeme.IsQuiet (lexeme : Lexeme) : Prop :=
  lexeme.kind = .comment ∨ lexeme.kind = .pattern →
    lexeme.text.any isDelimiter = false ∧ lastMark none lexeme.text ≠ some '.'

instance (lexeme : Lexeme) : Decidable lexeme.IsQuiet := inferInstanceAs (Decidable (_ → _))

/-- Most marks can stand before anything. -/
theorem IsLexeme.anyMark {c : Char} {holes : List Nat} {rest : List Char}
    (hscan : Text.isBlank c = false ∧ isDelimiter c = false ∧ c.isDigit = false ∧
      Name.isIdentifierStart c = false)
    (hmark : c ≠ '.' ∧ c ≠ '/' ∧ c ≠ '?') : IsLexeme .mark [c] holes holes rest :=
  .mark hscan.1 hscan.2.1 hscan.2.2.1 hscan.2.2.2 hmark.1 (fun h => absurd h hmark.2.1)
    (fun h => absurd h hmark.2.2)

/-! ## The scan of a lexeme -/

section Scans

variable {parameter text rest : List Char} {mode : Mode} {outer : List Mode} {previous : Option Char}
  {holes holes' : List Nat} {depth : Nat} {mark : Char}

/-- The scan is in code, inside of the holes `holes`. -/
inductive Inside : List Nat → Mode → List Mode → Prop
  | top (depth : Nat) : Inside [] (.code depth) []
  | hole (depth : Nat) {holes : List Nat} {mode : Mode} {outer : List Mode} :
      Inside holes mode outer → Inside (depth :: holes) (.code depth) (.literal :: mode :: outer)

theorem Inside.code (h : Inside holes mode outer) : ∃ depth, mode = .code depth := by
  cases h with
  | top depth => exact ⟨depth, rfl⟩
  | hole depth _ => exact ⟨depth, rfl⟩

theorem Inside.openBrace (h : Inside holes (.code depth) outer) :
    Inside (deeper holes) (.code (depth + 1)) outer := by
  cases h with
  | top => exact .top (depth + 1)
  | hole _ h => exact .hole (depth + 1) h

/-- A brace closes one that is open in the same hole. -/
theorem Inside.closeBrace (previous : Option Char) (h : Inside (deeper holes) (.code depth) outer) :
    ∃ depth', Scan.closeBrace ⟨.code depth, outer, previous⟩ depth =
      ⟨.code depth', outer, some '\x7d'⟩ ∧ Inside holes (.code depth') outer := by
  cases holes with
  | nil =>
    cases h
    refine ⟨depth - 1, ?_, .top (depth - 1)⟩
    cases depth <;> rfl
  | cons depth' holes =>
    cases h with
    | hole _ h => exact ⟨depth', rfl, .hole depth' h⟩

theorem passes_stringText (h : StringText mark text) :
    Passes parameter ⟨.quote mark, outer, previous⟩ text ⟨.quote mark, outer, previous⟩ rest := by
  induction h with
  | nil => exact .nil
  | escape c _ ih => exact (passes_quoteEscape c).trans ih
  | char hescape hmark _ ih => exact (passes_quoteChar hescape hmark).trans ih

theorem passes_literalText (h : LiteralText text) (hrest : rest.head? ≠ some '\x7b') :
    Passes parameter ⟨.literal, outer, previous⟩ text ⟨.literal, outer, previous⟩ rest := by
  induction h with
  | nil => exact .nil
  | escape c _ ih => exact (passes_literalEscape c).trans ih
  | @char c text hescape hclose hhole _ ih =>
    refine Passes.trans (passes_literalChar hescape hclose fun hc => ?_) ih
    cases text with
    | nil => exact hrest
    | cons d text => exact hhole hc

theorem ne_delimiter_of_isBlank {c : Char} (h : Text.isBlank c = true) : isDelimiter c = false := by
  refine Bool.eq_false_iff.2 fun hdelimiter => ?_
  simp only [isDelimiter, Bool.or_eq_true, beq_iff_eq] at hdelimiter
  rcases hdelimiter with (((rfl | rfl) | rfl) | rfl) | rfl <;> cases h

theorem passes_blank {c : Char} (h : Text.isBlank c = true) :
    Passes parameter ⟨.code depth, outer, previous⟩ [c] ⟨.code depth, outer, previous⟩ rest := by
  have hdigit : c.isDigit = false := by
    refine Bool.eq_false_iff.2 fun hdigit => ?_
    have hrange := toNat_of_isDigit hdigit
    rw [Text.isBlank_eq_false (by omega) (by omega)] at h
    cases h
  have hstart : Name.isIdentifierStart c = false := by
    refine Bool.eq_false_iff.2 fun hstart => ?_
    have hrange := toNat_of_isIdentifierStart hstart
    rw [Text.isBlank_eq_false (by omega) (by omega)] at h
    cases h
  have hpasses : Passes parameter ⟨.code depth, outer, previous⟩ [c]
      ⟨.code depth, outer, if Text.isBlank c then previous else some c⟩ rest :=
    passes_mark (ne_delimiter_of_isBlank h) hdigit hstart
  rwa [if_pos h] at hpasses

theorem passes_char {c : Char} (hblank : Text.isBlank c = false) (hdelimiter : isDelimiter c = false)
    (hdigit : c.isDigit = false) (hstart : Name.isIdentifierStart c = false) :
    Passes parameter ⟨.code depth, outer, previous⟩ [c] ⟨.code depth, outer, some c⟩ rest := by
  have hpasses : Passes parameter ⟨.code depth, outer, previous⟩ [c]
      ⟨.code depth, outer, if Text.isBlank c then previous else some c⟩ rest :=
    passes_mark hdelimiter hdigit hstart
  rwa [hblank, if_neg Bool.false_ne_true] at hpasses

theorem passes_dot :
    Passes parameter ⟨.code depth, outer, previous⟩ ['.'] ⟨.code depth, outer, some '.'⟩ rest :=
  passes_char (by decide) (by decide) (by decide) (by decide)

/-- Over a quiet comment or pattern the scan stays in code, and it is no dot that it has read last. -/
theorem passes_quiet (hslash : text.head? = some '/') (hplain : text.any isDelimiter = false)
    (hmark : lastMark none text ≠ some '.') (hparted : Parted text rest) :
    ∃ last, last ≠ some '.' ∧
      Passes parameter ⟨.code depth, outer, previous⟩ text ⟨.code depth, outer, last⟩ rest := by
  obtain ⟨last, hpasses, hdot⟩ : StaysInCode parameter depth outer previous text rest :=
    staysInCode_plain (fun c hc => Bool.eq_false_iff.2 (List.any_eq_false.1 hplain c hc)) hparted
  refine ⟨last, fun hlast => ?_, hpasses⟩
  -- a slash is no blank, so what stands before the text does not matter
  cases text with
  | nil => cases hslash
  | cons c text =>
    obtain rfl : c = '/' := by simpa using hslash
    exact hmark (hdot hlast)

theorem parted_append {text' : List Char} (h : text'.getLast? = some '/') :
    Parted (text ++ text') rest := by
  intro c hc hpart
  obtain rfl : '/' = c := by simpa [h] using hc
  cases hpart

theorem parted_of_lineEnd (h : ∀ d ∈ rest.head?, isLineEnd d = true) : Parted text rest := by
  intro _ _ _ d hd
  have hend := h d hd
  simp only [isLineEnd, Bool.or_eq_true, beq_iff_eq] at hend
  rcases hend with ((rfl | rfl) | rfl) | rfl <;> decide

theorem passes_string (hmark : mark = '"' ∨ mark = '\'') (h : StringText mark text) :
    Passes parameter ⟨.code depth, outer, previous⟩ (mark :: text ++ [mark])
      ⟨.code depth, outer, some mark⟩ rest := by
  have hescape : mark ≠ '\\' := by rcases hmark with rfl | rfl <;> decide
  exact (Passes.trans (passes_openQuote hmark) (passes_stringText h)).trans (passes_closeQuote hescape)

/-- A brace that closes a hole leads back to the text of the literal. -/
theorem passes_closeHole :
    Passes parameter ⟨.code 0, mode :: outer, previous⟩ ['\x7d'] ⟨mode, outer, some '\x7d'⟩ rest :=
  passes_closeBrace

/-- The scan over one lexeme: it is in code again, and has read a dot last if the lexeme ends in one that a
name can follow. -/
theorem IsLexeme.passes {kind : Lexeme.Kind} (h : IsLexeme kind text holes holes' rest)
    (hquiet : Lexeme.IsQuiet ⟨kind, text⟩) (hinside : Inside holes mode outer) :
    ∃ mode' outer' last, Passes parameter ⟨mode, outer, previous⟩ text ⟨mode', outer', last⟩ rest ∧
      Inside holes' mode' outer' ∧
      (last = some '.' ↔ if kind = .blank then previous = some '.' else kind.isDot = true) := by
  obtain ⟨depth, rfl⟩ := hinside.code
  cases h with
  | blank hblank => exact ⟨_, _, _, passes_blank hblank, hinside, by simp⟩
  | lineComment _ hends =>
    obtain ⟨hplain, hmark⟩ := hquiet (.inl rfl)
    obtain ⟨last, hlast, hpasses⟩ := passes_quiet rfl hplain hmark (parted_of_lineEnd hends)
    exact ⟨_, _, _, hpasses, hinside, by simpa using hlast⟩
  | blockComment _ =>
    obtain ⟨hplain, hmark⟩ := hquiet (.inl rfl)
    obtain ⟨last, hlast, hpasses⟩ := passes_quiet rfl hplain hmark (parted_append rfl)
    exact ⟨_, _, _, hpasses, hinside, by simpa using hlast⟩
  | pattern _ _ _ =>
    obtain ⟨hplain, hmark⟩ := hquiet (.inr rfl)
    obtain ⟨last, hlast, hpasses⟩ := passes_quiet rfl hplain hmark (parted_append rfl)
    exact ⟨_, _, _, hpasses, hinside, by simpa using hlast⟩
  | word hstart hall hends =>
    exact ⟨_, _, _, passes_word hstart (List.all_eq_true.1 hall) hends, hinside, by simp⟩
  | number hdigit hall hends =>
    exact ⟨_, _, _, passes_number hdigit (List.all_eq_true.1 hall) hends, hinside, by simp⟩
  | fraction hdigit hall hends =>
    exact ⟨_, _, _, passes_dot.trans (passes_number hdigit (List.all_eq_true.1 hall) hends), hinside,
      by simp⟩
  | string hmark htext =>
    refine ⟨_, _, _, passes_string hmark htext, hinside, ?_⟩
    rcases hmark with rfl | rfl <;> simp
  | literal htext =>
    exact ⟨_, _, _, (passes_openLiteral.trans (passes_literalText htext (by simp))).trans
      passes_closeLiteral, hinside, by simp⟩
  | literalHead htext =>
    exact ⟨_, _, _, (passes_openLiteral.trans (passes_literalText htext (by simp))).trans
      passes_openHole, .hole 0 hinside, by simp⟩
  | literalMiddle htext =>
    cases hinside with
    | hole _ hinside =>
      exact ⟨_, _, _, (passes_closeHole.trans (passes_literalText htext (by simp))).trans
        passes_openHole, .hole 0 hinside, by simp⟩
  | literalTail htext =>
    cases hinside with
    | hole _ hinside =>
      exact ⟨_, _, _, (passes_closeHole.trans (passes_literalText htext (by simp))).trans
        passes_closeLiteral, hinside, by simp⟩
  | access _ _ => exact ⟨_, _, _, passes_dot, hinside, by simp⟩
  | optionalAccess _ =>
    exact ⟨_, _, _, (passes_char (by decide) (by decide) (by decide) (by decide)).trans passes_dot,
      hinside, by simp⟩
  | spread => exact ⟨_, _, _, (passes_dot.trans passes_dot).trans passes_dot, hinside, by simp⟩
  | openBrace => exact ⟨_, _, _, passes_openBrace, hinside.openBrace, by simp⟩
  | closeBrace =>
    obtain ⟨depth', hclose, hinside'⟩ := hinside.closeBrace previous
    exact ⟨_, _, _, hclose ▸ passes_closeBrace, hinside', by simp⟩
  | mark hblank hdelimiter hdigit hstart hdot _ _ =>
    exact ⟨_, _, _, passes_char hblank hdelimiter hdigit hstart, hinside, by simpa using hdot⟩

/-- A word that is the parameter is a hole unless the scan has read a dot last. -/
theorem IsLexeme.holeAfter_iff (h : IsLexeme .word parameter holes holes' rest) :
    HoleAfter (String.ofList parameter)
      (split parameter ⟨.code depth, outer, previous⟩ (parameter ++ rest)) [] ↔ previous ≠ some '.' := by
  cases h with
  | word hstart hall hends =>
    rw [List.cons_append, holeAfter_word hstart,
      (Text.span_append (List.all_eq_true.1 hall) hends).1]
    exact and_iff_right rfl

/-- The scan over the lexemes of a reading. -/
theorem Lexed.passes {before : List Lexeme} (h : Lexed before holes rest)
    (hquiet : ∀ l ∈ before, l.IsQuiet) :
    ∃ mode outer last, Passes parameter {} (source before) ⟨mode, outer, last⟩ rest ∧
      Inside holes mode outer ∧ (last = some '.' ↔ ∃ l ∈ preceding before, l.kind.isDot = true) := by
  induction h with
  | start => exact ⟨_, _, _, .nil, .top 0, by simp [preceding]⟩
  | @next lexeme before holes holes' rest _ hreads ih =>
    obtain ⟨hlexeme, hbefore⟩ := List.forall_mem_cons.1 hquiet
    obtain ⟨mode, outer, last, hpasses, hinside, hdot⟩ := ih hbefore
    obtain ⟨mode', outer', last', hpasses', hinside', hdot'⟩ := hreads.passes hlexeme hinside
    refine ⟨mode', outer', last', hpasses.trans hpasses', hinside', hdot'.trans ?_⟩
    by_cases hblank : lexeme.kind = .blank
    case pos => simp [preceding, hblank, hdot]
    case neg => simp [preceding, hblank]

end Scans

/-! ## Replaced occurrences -/

/-- After the text `front` the value stands for the parameter, whatever the value is. -/
def Replaces (t : Template) (front : List Char) : Prop :=
  ∃ before after, t.pieces = before ++ .hole :: after ∧ (fill t.parameter before).toList = front ∧
    ∀ value origin, (t.apply value origin).render = fill value.parenthesized.render before ++
      value.parenthesized.render ++ fill value.parenthesized.render after

theorem replaces_iff {t : Template} {front : List Char} :
    t.Replaces front ↔ HoleAfter t.parameter t.pieces front := by
  constructor
  · rintro ⟨before, after, hpieces, hfront, -⟩
    exact ⟨before, after, hpieces, hfront⟩
  · rintro ⟨before, after, hpieces, hfront⟩
    refine ⟨before, after, hpieces, hfront, fun value origin => ?_⟩
    rw [render_apply, hpieces, fill_append, fill_cons, Piece.filled, String.append_assoc]

/-- A use is a hole unless a dot that a name can follow stands before it. -/
theorem Occurrence.holeAfter_iff {parameter : String} {text : List Char}
    (o : Occurrence parameter text) (hquiet : ∀ l ∈ o.before, l.IsQuiet) :
    HoleAfter parameter (split parameter.toList {} text) (source o.before) ↔
      ∀ l ∈ preceding o.before, l.kind.isDot = false := by
  obtain ⟨before, holes, rest, hlexed, rfl⟩ := o
  cases hlexed with
  | next hlexed hword =>
  obtain ⟨mode, outer, last, hpasses, hinside, hdot⟩ := hlexed.passes hquiet
  obtain ⟨depth, rfl⟩ := hinside.code
  have hscan := (hpasses []).trans hword.holeAfter_iff
  rw [String.ofList_toList, List.append_nil] at hscan
  refine hscan.trans ?_
  rw [Ne, hdot]
  simp

/-- A member access right before a name makes it the name of a property. -/
theorem Occurrence.isProperty_of_preceding {parameter : String} {text : List Char}
    {o : Occurrence parameter text} {l : Lexeme} (h : l ∈ preceding o.before) (hl : l.kind = .access) :
    o.IsProperty := by
  obtain ⟨-, after, before, hbefore, hblank⟩ := List.find?_eq_some_iff_append.1 h
  refine ⟨l, List.find?_eq_some_iff_append.2 ⟨by simp [hl], after, before, hbefore, fun a ha => ?_⟩, hl⟩
  have hkind : a.kind = .blank := by simpa using hblank a ha
  simp [hkind]

/-- What a template replaces of its body, in whatever way the body is read. Where comments and patterns are
quiet, a use of the parameter is replaced exactly if the last lexeme before it is neither a member access
nor a spread; so each use is that is neither the name of a property nor spread. -/
theorem new_replaces {parameter body : String} {t : Template} (h : new parameter body = .ok t)
    (o : Occurrence parameter (Text.trimChars body.toList)) (hquiet : ∀ l ∈ o.before, l.IsQuiet) :
    (t.Replaces (source o.before) ↔ ∀ l ∈ preceding o.before, l.kind.isDot = false) ∧
      (¬o.IsProperty → ¬o.IsSpread → t.Replaces (source o.before)) := by
  obtain ⟨-, rfl⟩ := new_eq_ok h
  have hexact : (ofBody parameter body).Replaces (source o.before) ↔
      ∀ l ∈ preceding o.before, l.kind.isDot = false :=
    replaces_iff.trans (o.holeAfter_iff hquiet)
  refine ⟨hexact, fun hproperty hspread => hexact.2 fun l hl => ?_⟩
  cases hkind : l.kind with
  | access => exact absurd (Occurrence.isProperty_of_preceding hl hkind) hproperty
  | spread => exact absurd ⟨l, hl, hkind⟩ hspread
  | _ => rfl

/-- A body in which the parameter names a property and, after a comment and in the hole of a literal, is
used. -/
def joinedBody : String := "[...xs, `$\x7bx.s /* as is */ + s\x7d`]"

def joinedUse : Occurrence "s" (Text.trimChars joinedBody.toList) where
  before := [⟨.blank, [' ']⟩, ⟨.mark, ['+']⟩, ⟨.blank, [' ']⟩, ⟨.comment, "/* as is */".toList⟩,
    ⟨.blank, [' ']⟩, ⟨.word, ['s']⟩, ⟨.access, ['.']⟩, ⟨.word, ['x']⟩, ⟨.literal, ['\x60', '$', '\x7b']⟩,
    ⟨.blank, [' ']⟩, ⟨.mark, [',']⟩, ⟨.word, ['x', 's']⟩, ⟨.spread, ['.', '.', '.']⟩, ⟨.mark, ['[']⟩]
  holes := [0]
  rest := ['\x7d', '\x60', ']']
  lexed :=
    Lexed.start
      |>.next (.anyMark (by decide) (by decide))
      |>.next .spread
      |>.next (.word (by decide) (by decide) (by decide))
      |>.next (.anyMark (by decide) (by decide))
      |>.next (.blank (by decide))
      |>.next (.literalHead .nil)
      |>.next (.word (by decide) (by decide) (by decide))
      |>.next (.access (by decide) (by decide))
      |>.next (.word (by decide) (by decide) (by decide))
      |>.next (.blank (by decide))
      |>.next (@IsLexeme.blockComment [' ', 'a', 's', ' ', 'i', 's', ' '] _ _ (by decide))
      |>.next (.blank (by decide))
      |>.next (.anyMark (by decide) (by decide))
      |>.next (.blank (by decide))
      |>.next (.word (by decide) (by decide) (by decide))
  whole := by decide +kernel

def joined : Template := ⟨"s", [.text "[...xs, `$\x7bx.s /* as is */ + ", .hole, .text "\x7d`]"]⟩

theorem new_replaces_joined : new "s" joinedBody = .ok joined ∧ (∀ l ∈ joinedUse.before, l.IsQuiet) ∧
    ¬joinedUse.IsProperty ∧ ¬joinedUse.IsSpread ∧ joined.Replaces (source joinedUse.before) := by
  have h : new "s" joinedBody = .ok joined := by with_unfolding_all rfl
  have hquiet : ∀ l ∈ joinedUse.before, l.IsQuiet := by decide
  have hproperty : ¬joinedUse.IsProperty := by
    simp [Occurrence.IsProperty, joinedUse]
  have hspread : ¬joinedUse.IsSpread := by
    simp [Occurrence.IsSpread, preceding, joinedUse]
  exact ⟨h, hquiet, hproperty, hspread, (new_replaces h joinedUse hquiet).2 hproperty hspread⟩

-- The scan takes the quote in the comment for the beginning of a string.
example : ofBody "s" "/* don't */ s" = ⟨"s", [.text "/* don't */ s"]⟩ := by with_unfolding_all rfl

/-- The use in `[...s]`. -/
def spreadUse : Occurrence "s" (Text.trimChars "[...s]".toList) where
  before := [⟨.spread, ['.', '.', '.']⟩, ⟨.mark, ['[']⟩]
  holes := []
  rest := [']']
  lexed :=
    Lexed.start
      |>.next (.anyMark (by decide) (by decide))
      |>.next .spread
      |>.next (.word (by decide) (by decide) (by decide))
  whole := by decide +kernel

/-- What is spread is no property and stays as it is, so that the value is nowhere. -/
theorem spreadUse_kept : ∃ t, new "s" "[...s]" = .ok t ∧ (∀ l ∈ spreadUse.before, l.IsQuiet) ∧
    ¬spreadUse.IsProperty ∧ ¬t.Replaces (source spreadUse.before) ∧
    (t.apply "v" .site).render = "[...s]" := by
  refine ⟨⟨"s", [.text "[...s]"]⟩, by with_unfolding_all rfl, by decide, ?_, ?_, by decide +kernel⟩
  · simp [Occurrence.IsProperty, spreadUse]
  · rintro ⟨before, after, hpieces, -⟩
    have hhole : Piece.hole ∈ before ++ .hole :: after := by simp
    rw [← hpieces] at hhole
    exact absurd hhole (by decide)

end OpenApi.Template

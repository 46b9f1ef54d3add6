import OpenApi.Code.Field
import OpenApi.Code.Lemmas
import OpenApi.Code.Statement
import OpenApi.Proofs.Code.Pieces

/-!
Sound code. A reader of generated code sees the text of some origins and takes the rest for gaps; code is
sound for a reader if it gets through the code and ends with all brackets closed. Sound code can be put
together wherever the texts between the pieces fit, which is decided by these texts alone.
-/

namespace OpenApi

/-- A reader of generated code: what it lets pass, and the origins whose text it sees. -/
structure Reader extends Lex.Rules where
  shows : Origin → Bool
  shows_site : shows .site = true
  lenient : (Lex.strict true).Refines toRules

namespace Reader

variable (r : Reader)

/-- What the reader sees of a character of the given origin. -/
def glyph (origin : Origin) (c : Char) : Glyph := if r.shows origin then .char c else .hidden origin

/-- What the reader sees of a piece of code. -/
def glyphs (code : Code) : List Glyph :=
  code.fragments.flatMap fun f => f.text.toList.map (r.glyph f.origin)

/-- The glyphs of the code are those of its characters, each seen by its origin. -/
theorem glyphs_eq_map (code : Code) :
    r.glyphs code = code.chars.map fun (c, origin) => r.glyph origin c := by
  simp only [glyphs, Code.chars, Fragment.chars, List.map_flatMap, List.map_map]
  rfl

@[simp] theorem glyphs_empty : r.glyphs Code.empty = [] := rfl

@[simp] theorem glyphs_append (a b : Code) : r.glyphs (a ++ b) = r.glyphs a ++ r.glyphs b := by
  simp only [glyphs_eq_map, Code.chars_append, List.map_append]

@[simp] theorem glyphs_cat (parts : List Code) :
    r.glyphs (Code.cat parts) = (parts.map r.glyphs).flatten := by
  rw [← List.flatMap_def, glyphs_eq_map, Code.chars_cat, List.map_flatMap]
  exact congrArg (parts.flatMap ·) (funext fun part => (r.glyphs_eq_map part).symm)

@[simp] theorem glyphs_tagged (text : String) (origin : Origin) :
    r.glyphs (Code.tagged text origin) = text.toList.map (r.glyph origin) := by
  rw [glyphs_eq_map, Code.chars_tagged, List.map_map]
  rfl

@[simp] theorem glyphs_site (text : String) : r.glyphs (Code.site text) = text.toList.map .char := by
  rw [Code.site, glyphs_tagged]
  exact List.map_congr_left fun c _ => if_pos r.shows_site

/-! ## Sound code -/

/-- The reader gets through the code, and all brackets are closed then. -/
def Sound (code : Code) : Prop := Lex.Sound r.toRules (r.glyphs code)

/-- Besides, a dot may follow. -/
def Value (code : Code) : Prop := Lex.Value r.toRules (r.glyphs code)

/-- Besides, arguments may follow. -/
def Callee (code : Code) : Prop := Lex.Callee r.toRules (r.glyphs code)

/-- Besides, the code leaves nothing that could be part of something else. -/
def Complete (code : Code) : Prop := Lex.Complete r.toRules (r.glyphs code)

/-- The reader sees all of the code. -/
def Shown (code : Code) : Prop := r.glyphs code = code.render.toList.map .char

/-- Expressions that may be converted: they become part of texts of the compiler, too. -/
structure Operand (code : Code) : Prop where
  value : r.Value code
  shown : r.Shown code

/-- The pieces of code are what is said of them. -/
inductive Fits : List Lex.Piece → List Code → Prop
  | nil : Fits [] []
  | text {text : List Char} {ps : List Lex.Piece} {codes : List Code} (rest : Fits ps codes) :
    Fits (.text text :: ps) (Code.site (String.ofList text) :: codes)
  | sound {code : Code} {ps : List Lex.Piece} {codes : List Code} (h : r.Sound code)
    (rest : Fits ps codes) : Fits (.sound :: ps) (code :: codes)
  | value {code : Code} {ps : List Lex.Piece} {codes : List Code} (h : r.Value code)
    (rest : Fits ps codes) : Fits (.value :: ps) (code :: codes)
  | callee {code : Code} {ps : List Lex.Piece} {codes : List Code} (h : r.Callee code)
    (rest : Fits ps codes) : Fits (.callee :: ps) (code :: codes)
  | complete {code : Code} {ps : List Lex.Piece} {codes : List Code} (h : r.Complete code)
    (rest : Fits ps codes) : Fits (.complete :: ps) (code :: codes)
  | ordinary {text : String} {ps : List Lex.Piece} {codes : List Code}
    (h : text.toList.all Lex.isOrdinary = true) (rest : Fits ps codes) :
    Fits (.ordinary :: ps) (Code.site text :: codes)

variable {r} {a b code : Code} {ps : List Lex.Piece} {parts : List Code}

theorem Value.sound (h : r.Value code) : r.Sound code := Lex.Value.sound h

theorem Complete.value (h : r.Complete code) : r.Value code := Lex.Complete.value r.lenient h

theorem Complete.sound (h : r.Complete code) : r.Sound code := h.value.sound

theorem Operand.sound (h : r.Operand code) : r.Sound code := h.value.sound

theorem Sound.congr (h : r.Sound a) (heq : r.glyphs b = r.glyphs a) : r.Sound b := by
  rwa [Sound, heq]

theorem Value.congr (h : r.Value a) (heq : r.glyphs b = r.glyphs a) : r.Value b := by
  rwa [Value, heq]

theorem Callee.congr (h : r.Callee a) (heq : r.glyphs b = r.glyphs a) : r.Callee b := by
  rwa [Callee, heq]

theorem Complete.congr (h : r.Complete a) (heq : r.glyphs b = r.glyphs a) : r.Complete b := by
  rwa [Complete, heq]

theorem ordinary_glyphs {text : String} (h : text.toList.all Lex.isOrdinary = true) :
    Lex.Ordinary (r.glyphs (Code.site text)) := ⟨text.toList, r.glyphs_site text, h⟩

theorem Fits.lex (h : r.Fits ps parts) : Lex.Fits r.toRules ps (parts.map r.glyphs) := by
  induction h with
  | nil => exact .nil
  | @text text ps codes _ ih =>
    have htext : r.glyphs (Code.site (String.ofList text)) = text.map .char := by simp
    rw [List.map_cons, htext]
    exact .text ih
  | sound h _ ih => exact .sound h ih
  | value h _ ih => exact .value h ih
  | callee h _ ih => exact .callee h ih
  | complete h _ ih => exact .complete h ih
  | ordinary h _ ih => exact .ordinary (ordinary_glyphs h) ih

/-! ## Putting code together -/

theorem Fits.cat (h : r.Fits ps parts) (hclose : Lex.Piece.close ps = true) :
    r.Sound (Code.cat parts) := by
  rw [Sound, glyphs_cat]
  exact h.lex.toSound r.lenient hclose

theorem Fits.catValue (h : r.Fits ps parts) (hclose : Lex.Piece.closeValue ps = true) :
    r.Value (Code.cat parts) := by
  rw [Value, glyphs_cat]
  exact h.lex.toValue r.lenient hclose

theorem Fits.catCallee (h : r.Fits ps parts) (hclose : Lex.Piece.closeCallee ps = true) :
    r.Callee (Code.cat parts) := by
  rw [Callee, glyphs_cat]
  exact h.lex.toCallee r.lenient hclose

theorem Fits.catComplete (h : r.Fits ps parts) (hclose : Lex.Piece.closeComplete ps = true) :
    r.Complete (Code.cat parts) := by
  rw [Complete, glyphs_cat]
  exact h.lex.toComplete r.lenient hclose

theorem glyphs_append_eq_cat (a b : Code) : r.glyphs (a ++ b) = r.glyphs (Code.cat [a, b]) := by
  simp

theorem Fits.append (h : r.Fits ps [a, b]) (hclose : Lex.Piece.close ps = true) :
    r.Sound (a ++ b) :=
  (h.cat hclose).congr (glyphs_append_eq_cat a b)

theorem Fits.appendValue (h : r.Fits ps [a, b]) (hclose : Lex.Piece.closeValue ps = true) :
    r.Value (a ++ b) :=
  (h.catValue hclose).congr (glyphs_append_eq_cat a b)

/-- Text that is put together by itself. -/
theorem glyphs_join_site (texts : List String) :
    r.glyphs (Code.site (String.join texts)) = r.glyphs (Code.cat (texts.map Code.site)) := by
  rw [glyphs_cat]
  induction texts with
  | nil => exact r.glyphs_site ""
  | cons text texts ih =>
    rw [String.join_cons, glyphs_site, String.toList_append, List.map_append, ← glyphs_site,
      ← glyphs_site, ih]
    rfl

theorem Fits.site (texts : List String) {text : String} (h : r.Fits ps (texts.map Code.site))
    (hclose : Lex.Piece.close ps = true) (heq : text = String.join texts) :
    r.Sound (Code.site text) :=
  (h.cat hclose).congr (heq ▸ glyphs_join_site texts)

theorem Fits.siteValue (texts : List String) {text : String} (h : r.Fits ps (texts.map Code.site))
    (hclose : Lex.Piece.closeValue ps = true) (heq : text = String.join texts) :
    r.Value (Code.site text) :=
  (h.catValue hclose).congr (heq ▸ glyphs_join_site texts)

/-- Text that is given. -/
theorem sound_given {text : List Char} (h : Lex.Piece.close [.text text] = true) :
    r.Sound (Code.site (String.ofList text)) :=
  ((Fits.text .nil).cat h).congr (by simp)

theorem value_given {text : List Char} (h : Lex.Piece.closeValue [.text text] = true) :
    r.Value (Code.site (String.ofList text)) :=
  ((Fits.text .nil).catValue h).congr (by simp)

theorem callee_given {text : List Char} (h : Lex.Piece.closeCallee [.text text] = true) :
    r.Callee (Code.site (String.ofList text)) :=
  ((Fits.text .nil).catCallee h).congr (by simp)

theorem complete_given {text : List Char} (h : Lex.Piece.closeComplete [.text text] = true) :
    r.Complete (Code.site (String.ofList text)) :=
  ((Fits.text .nil).catComplete h).congr (by simp)

theorem Complete.append (ha : r.Complete a) (hb : r.Complete b) : r.Complete (a ++ b) := by
  rw [Complete, glyphs_append]
  exact (Lex.readAll_append_of_eq_some ha).trans hb

theorem complete_cat (h : ∀ part ∈ parts, r.Complete part) : r.Complete (Code.cat parts) := by
  rw [Complete, glyphs_cat]
  induction parts with
  | nil => rfl
  | cons part parts ih =>
    obtain ⟨hpart, hparts⟩ := List.forall_mem_cons.1 h
    rw [List.map_cons, List.flatten_cons]
    exact (Lex.readAll_append_of_eq_some hpart).trans (ih hparts)

theorem sound_join {separator : List Char} (h : ∀ part ∈ parts, r.Sound part)
    (hseparator : Lex.Piece.close [.sound, .text separator, .sound] = true) :
    r.Sound (Code.join (String.ofList separator) parts) := by
  refine Code.join_preserves ⟨{}, rfl, rfl, .inl rfl⟩ h fun code part hcode hpart => ?_
  have hfits : r.Fits _ [code, Code.site (String.ofList separator), part] :=
    .sound hcode (.text (.sound hpart .nil))
  exact (hfits.cat hseparator).congr (by simp)

theorem Complete.parens (h : r.Sound code) : r.Complete code.parens :=
  (Fits.text (.sound h (.text .nil))).catComplete (by decide)

theorem Value.parens (h : r.Sound code) : r.Value code.parens := (Complete.parens h).value

end Reader

end OpenApi

import OpenApi.Proofs.Code.Statements

/-!
Code on one line: literals escape the ends of lines, whatever the texts of a document are, and names have
none. What is put together from code on one line stands on one line.
-/

namespace OpenApi

/-! ## Texts of a document -/

namespace Text

theorem newline_notMem_of_all {p : Char → Bool} (hp : p '\n' = false) {text : List Char}
    (h : text.all p = true) : '\n' ∉ text := fun hmem => by
  rw [List.all_eq_true.1 h _ hmem] at hp
  cases hp

theorem newline_notMem_fourHexDigits (n : Nat) : '\n' ∉ fourHexDigits n := by
  have hdigit : ∀ d < 16, '\n' ≠ Char.ofNat (if d < 10 then 0x30 + d else 0x57 + d) := by decide
  have hlt (m : Nat) : m % 16 < 16 := Nat.mod_lt m (by decide)
  simp only [fourHexDigits, List.mem_cons, List.not_mem_nil, or_false, not_or]
  exact ⟨hdigit _ (hlt _), hdigit _ (hlt _), hdigit _ (hlt _), hdigit _ (hlt _)⟩

theorem newline_notMem_quotedChar (c : Char) : '\n' ∉ quotedChar c := by
  unfold quotedChar
  repeat' split
  all_goals simp_all [newline_notMem_fourHexDigits, eq_comm]

theorem newline_notMem_quoted (text : String) : '\n' ∉ (quoted text).toList := by
  simp only [quoted, String.toList_ofList, List.mem_cons, List.mem_append, List.mem_flatMap,
    List.not_mem_nil, or_false, not_or]
  refine ⟨by decide, ?_, by decide⟩
  rintro ⟨c, _, hc⟩
  exact newline_notMem_quotedChar c hc

end Text

namespace Json

open Text

theorem newline_notMem_numberText (value : JsonNumber) : '\n' ∉ (numberText value).toList := by
  have hnewline : Lex.isNumeric '\n' = false := by decide
  cases value with
  | integer value => exact newline_notMem_of_all hnewline (Lex.toString_int_numeric value)
  | binary value => exact newline_notMem_of_all hnewline (Lex.numberStyle_numeric _ value)

mutual

theorem newline_notMem_text : ∀ value : Json, '\n' ∉ value.text.toList
  | .null | .bool true | .bool false => by simp [text]
  | .number value => newline_notMem_numberText value
  | .string value => newline_notMem_quoted value
  | .array items => by simp [text, newline_notMem_itemsText items]
  | .object members => by simp [text, newline_notMem_membersText members]

theorem newline_notMem_itemsText : ∀ items : List Json, '\n' ∉ (itemsText items).toList
  | [] => List.not_mem_nil
  | [item] => newline_notMem_text item
  | item :: next :: rest => by
    simp [itemsText, newline_notMem_text item, newline_notMem_itemsText (next :: rest)]

theorem newline_notMem_membersText :
    ∀ members : List (String × Json), '\n' ∉ (membersText members).toList
  | [] => List.not_mem_nil
  | [(name, value)] => by
    simp [membersText, newline_notMem_quoted name, newline_notMem_text value]
  | (name, value) :: next :: rest => by
    simp [membersText, newline_notMem_quoted name, newline_notMem_text value,
      newline_notMem_membersText (next :: rest)]

end

end Json

/-! ## Code -/

namespace Reader

/-- All that is seen of the code stands on one line. -/
def OneLine (r : Reader) (code : Code) : Prop := .char '\n' ∉ r.glyphs code

/-- No text of formats is seen. -/
def HidesFormats (r : Reader) : Prop := ∀ name, r.shows (.stringFormat name) = false

variable {r : Reader} {a b code : Code} {parts : List Code}

theorem oneLine_site {text : String} (h : '\n' ∉ text.toList) : r.OneLine (Code.site text) := by
  simpa [OneLine] using h

theorem OneLine.append (ha : r.OneLine a) (hb : r.OneLine b) : r.OneLine (a ++ b) := by
  rw [OneLine, glyphs_append, List.mem_append, not_or]
  exact ⟨ha, hb⟩

theorem oneLine_cat (h : ∀ part ∈ parts, r.OneLine part) : r.OneLine (Code.cat parts) := by
  rw [OneLine, glyphs_cat, List.mem_flatten]
  rintro ⟨_, hmem, hline⟩
  obtain ⟨part, hpart, rfl⟩ := List.mem_map.1 hmem
  exact h part hpart hline

theorem oneLine_join {separator : String} (hseparator : '\n' ∉ separator.toList)
    (h : ∀ part ∈ parts, r.OneLine part) : r.OneLine (Code.join separator parts) :=
  Code.join_preserves List.not_mem_nil h fun _ _ hcode hpart =>
    (hcode.append (oneLine_site hseparator)).append hpart

theorem OneLine.wrapped (h : r.OneLine code) {before after : String} (hbefore : '\n' ∉ before.toList)
    (hafter : '\n' ∉ after.toList) : r.OneLine (Code.cat [before, code, after]) := by
  simp only [OneLine, glyphs_cat, glyphs_site, List.map_cons, List.map_nil, List.flatten_cons,
    List.flatten_nil, List.append_nil, List.mem_append, not_or]
  exact ⟨by simpa using hbefore, h, by simpa using hafter⟩

theorem OneLine.parens (h : r.OneLine code) : r.OneLine code.parens := h.wrapped (by decide) (by decide)

theorem OneLine.braced (h : r.OneLine code) : r.OneLine code.braced := h.wrapped (by decide) (by decide)

theorem oneLine_hidden {origin : Origin} (h : r.shows origin = false) (text : String) :
    r.OneLine (Code.tagged text origin) := by
  simp [OneLine, glyph, h]

theorem oneLine_quoted (text : String) : r.OneLine (Code.site (Text.quoted text)) :=
  oneLine_site (Text.newline_notMem_quoted text)

theorem oneLine_name {name : String} (h : name.toList.all Text.isWordPart = true) :
    r.OneLine (Code.site name) :=
  oneLine_site (Text.newline_notMem_of_all (by decide) h)

/-! ## Fields -/

/-- The name of the field, if it stands as it is, and the type stand on one line. -/
structure FieldOneLine (r : Reader) (f : Field) : Prop where
  name : f.raw = true → r.OneLine (Code.site f.name)
  type : r.OneLine f.type

theorem fieldOneLine_quoted {name : String} {type : Code} {optional : Bool} (h : r.OneLine type) :
    r.FieldOneLine { name, type, optional } := ⟨nofun, h⟩

theorem fieldOneLine_plain {name : String} {type : Code} {optional : Bool}
    (hname : '\n' ∉ name.toList) (h : r.OneLine type) :
    r.FieldOneLine (Field.plain name type optional) := ⟨fun _ => oneLine_site hname, h⟩

theorem FieldOneLine.declaration {f : Field} (h : r.FieldOneLine f) : r.OneLine f.declaration := by
  have hkey : r.OneLine (Code.site (if f.raw then f.name else Text.quoted f.name)) := by
    split
    case isTrue hraw => exact h.name hraw
    case isFalse => exact oneLine_quoted f.name
  have hcolon : '\n' ∉ (if f.optional then "?: " else ": ").toList := by split <;> decide
  refine OneLine.append ?_ h.type
  simp only [OneLine, glyphs_site, String.toList_append, List.map_append, List.mem_append, not_or]
    at hkey ⊢
  exact ⟨hkey, by simpa using hcolon⟩

variable {fields : List Field}

theorem oneLine_declarations (h : ∀ f ∈ fields, r.FieldOneLine f) {separator : String}
    (hseparator : '\n' ∉ separator.toList) :
    r.OneLine (Code.join separator (fields.map Field.declaration)) :=
  oneLine_join hseparator (List.forall_mem_map.2 fun f hf => (h f hf).declaration)

theorem oneLine_objectType (h : ∀ f ∈ fields, r.FieldOneLine f) :
    r.OneLine (Field.objectType fields) := by
  unfold Field.objectType
  split
  · exact oneLine_site (by decide)
  · exact (oneLine_declarations h (by decide)).braced

theorem oneLine_recordType {index : Option Code} (isOpen : Bool)
    (h : ∀ f ∈ fields, r.FieldOneLine f) (hindex : ∀ type ∈ index, r.OneLine type) :
    r.OneLine (Code.recordType fields index isOpen) := by
  have indexField {type : Code} (h : r.OneLine type) : r.FieldOneLine (Code.indexField type) :=
    ⟨fun _ => oneLine_site (show '\n' ∉ "[key: string]".toList by decide), h⟩
  unfold Code.recordType
  split
  case h_1 => split <;> exact oneLine_site (by decide)
  case h_2 => exact oneLine_objectType h
  case h_3 type =>
    have hfield := indexField (hindex type rfl)
    split
    · exact oneLine_objectType (List.forall_mem_append.2 ⟨h, List.forall_mem_singleton.2 hfield⟩)
    · refine (oneLine_cat ?_).parens
      simp only [List.forall_mem_cons]
      exact ⟨oneLine_objectType h, oneLine_site (by decide),
        oneLine_objectType (List.forall_mem_singleton.2 hfield), List.forall_mem_nil _⟩

theorem oneLine_combined {operator : String} (hoperator : '\n' ∉ operator.toList)
    (h : ∀ part ∈ parts, r.OneLine part) : r.OneLine (Code.combined operator parts) := by
  unfold Code.combined
  split
  case h_1 => exact List.forall_mem_singleton.1 h
  case h_2 => exact (oneLine_join hoperator h).parens

/-! ## Sound code on one line -/

/-- Sound code that stands on one line, as far as it is not the text of formats. -/
structure Line (r : Reader) (code : Code) : Prop where
  sound : r.Sound code
  oneLine : r.HidesFormats → r.OneLine code

/-- A field whose declaration is such code. -/
structure FieldLine (r : Reader) (f : Field) : Prop where
  sound : r.FieldSound f
  oneLine : r.HidesFormats → r.FieldOneLine f

theorem fieldLine_plain {name : List Char} {type : Code} {optional : Bool}
    (hname : Lex.Piece.close [.text name] = true ∧ '\n' ∉ name) (h : r.Line type) :
    r.FieldLine (Field.plain (String.ofList name) type optional) :=
  ⟨fieldSound_plain hname.1 h.sound,
    fun hhide => fieldOneLine_plain (by simpa using hname.2) (h.oneLine hhide)⟩

theorem line_arguments (h : ∀ f ∈ fields, r.FieldLine f) : r.Line (Field.arguments fields) :=
  ⟨sound_arguments fun f hf => (h f hf).sound,
    fun hhide => oneLine_declarations (fun f hf => (h f hf).oneLine hhide) (by decide)⟩

theorem line_given {text : List Char} (h : Lex.Piece.close [.text text] = true ∧ '\n' ∉ text) :
    r.Line (Code.site (String.ofList text)) :=
  ⟨sound_given h.1, fun _ => oneLine_site (by simpa using h.2)⟩

theorem line_join {separator : List Char} {parts : List Code} (h : ∀ part ∈ parts, r.Line part)
    (hseparator : Lex.Piece.close [.sound, .text separator, .sound] = true ∧ '\n' ∉ separator) :
    r.Line (Code.join (String.ofList separator) parts) :=
  ⟨sound_join (fun part hpart => (h part hpart).sound) hseparator.1,
    fun hhide =>
      oneLine_join (by simpa using hseparator.2) fun part hpart => (h part hpart).oneLine hhide⟩

theorem Line.braced {code : Code} (h : r.Line code) : r.Line code.braced :=
  ⟨(Value.braced h.sound).sound, fun hhide => (h.oneLine hhide).braced⟩

end Reader

end OpenApi

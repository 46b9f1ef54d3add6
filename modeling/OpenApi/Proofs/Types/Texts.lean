import OpenApi.Proofs.Files.Audits
import OpenApi.Proofs.Types.Formats

/-!
The text of formats, between that of the compiler. Where it is hidden, what a template is applied to is
all that is read, with a gap wherever the template has text; and it has text between any two places for
the value, since a body is split at whole identifiers. Where it is shown, it has to close what it opens.
-/

namespace OpenApi

/-! ## Bodies -/

namespace Template

/-- No text is empty, and there is text between any two holes. -/
def Spaced : List Template.Piece → Prop
  | [] => True
  | .text text :: rest => text ≠ "" ∧ Spaced rest
  | .hole :: rest => (∀ more, rest ≠ .hole :: more) ∧ Spaced rest

theorem Spaced.prepend {text : List Char} (htext : text ≠ []) {pieces : List Template.Piece}
    (h : Spaced pieces) : Spaced (prepend text pieces) := by
  unfold Template.prepend
  split
  case h_1 body rest => 
    refine ⟨?_, h.2⟩
    simp [String.append_eq_empty_iff, htext]
  case h_2 =>
    rw [if_neg (by simpa using htext)]
    exact ⟨by simpa using htext, h⟩

theorem prepend_ne_hole {text : List Char} (htext : text ≠ []) (pieces more : List Template.Piece) :
    prepend text pieces ≠ .hole :: more := by
  unfold prepend
  split
  · nofun
  · rw [if_neg (by simpa using htext)]
    nofun

/-- Pieces that begin with a hole only where the body begins with an identifier. -/
def Reads (body : List Char) (pieces : List Template.Piece) : Prop :=
  Spaced pieces ∧
    ∀ more, pieces = .hole :: more → ∃ c ∈ body.head?, Name.isIdentifierStart c = true

theorem reads_prepend {text : List Char} (htext : text ≠ []) {body rest : List Char}
    {pieces : List Template.Piece} (h : Reads rest pieces) : Reads body (prepend text pieces) :=
  ⟨h.1.prepend htext, fun more hmore => absurd hmore (prepend_ne_hole htext pieces more)⟩

theorem not_isIdentifierStart {cs : List Char} {c : Char}
    (h : c ∈ (cs.dropWhile Name.isIdentifierPart).head?) : Name.isIdentifierStart c = false := by
  have hpart : Name.isIdentifierPart c = false := by
    simpa [Option.mem_def.1 h] using List.head?_dropWhile_not Name.isIdentifierPart cs
  simp only [Name.isIdentifierPart, Char.isAlphanum, Bool.or_eq_false_iff] at hpart
  simp [Name.isIdentifierStart, hpart]

theorem split_reads (parameter : List Char) (s : Scan) (body : List Char) :
    Reads body (split parameter s body) := by
  have hempty : Reads [] [] := ⟨trivial, nofun⟩
  fun_induction split parameter s body with
  | case1 => exact hempty
  | case17 s c rest _ _ _ _ _ _ _ hstart word after _ ih =>
    refine ⟨⟨fun more hmore => ?_, ih.1⟩, fun _ _ => ⟨c, rfl, hstart⟩⟩
    obtain ⟨d, hd, hstart⟩ := ih.2 more hmore
    rw [not_isIdentifierStart hd] at hstart
    cases hstart
  -- in all other cases there is text in front
  | _ =>
    first
    | exact reads_prepend (List.cons_ne_nil _ _) hempty
    | exact reads_prepend (List.cons_ne_nil _ _) ‹Reads _ _›

theorem IsMade.spaced {t : Template} (h : t.IsMade) : Spaced t.pieces := by
  obtain ⟨parameter, body, rfl⟩ := h
  exact (split_reads _ _ _).1

end Template

/-! ## Hidden text -/

namespace Lex

variable {r : Rules} {s : State} {origin : Origin}

theorem read_gap (hhide : r.mayHide origin = true) (hs : s.AtRest) :
    read r s (.hidden origin) = some {} := by
  obtain ⟨mode, opened, word⟩ := s
  obtain ⟨rfl, rfl | rfl⟩ := hs
  all_goals exact if_pos hhide

/-- After a gap, nothing is left of what stood before. -/
theorem readAll_gap (hhide : r.mayHide origin = true) (hs : s.AtRest) {text : List Char}
    (htext : text ≠ []) : readAll r s (text.map fun _ => .hidden origin) = some {} := by
  cases text with
  | nil => exact absurd rfl htext
  | cons c text =>
    rw [List.map_cons, readAll, read_gap hhide hs, Option.bind_some]
    induction text with
    | nil => rfl
    | cons c text ih =>
      rw [List.map_cons, readAll, read_gap hhide ⟨rfl, .inl rfl⟩]
      exact ih (List.cons_ne_nil _ _)

end Lex

namespace Reader

variable {r : Reader} {origin : Origin}

theorem glyphs_hidden (hshows : r.shows origin = false) (text : String) :
    r.glyphs (Code.tagged text origin) = text.toList.map fun _ => .hidden origin := by
  rw [glyphs_tagged]
  exact List.map_congr_left fun c _ => if_neg (by simp [hshows])

theorem sound_hidden (hshows : r.shows origin = false) (hhide : r.mayHide origin = true)
    (text : String) : r.Sound (Code.tagged text origin) := by
  rw [Sound, glyphs_hidden hshows]
  by_cases htext : text.toList = []
  · rw [htext]
    exact ⟨{}, rfl, rfl, .inl rfl⟩
  · exact ⟨{}, Lex.readAll_gap hhide ⟨rfl, .inl rfl⟩ htext, rfl, .inl rfl⟩

/-- A template whose text is hidden is sound if the value is: each time that it is read, a gap or the
beginning of the code comes before it. -/
theorem sound_apply_hidden {t : Template} (hspaced : Template.Spaced t.pieces)
    (hshows : r.shows origin = false) (hhide : r.mayHide origin = true) {value : Code}
    (hvalue : r.Value value) : r.Sound (t.apply value origin) := by
  have hread : ∀ (pieces : List Template.Piece) (s : Lex.State), Template.Spaced pieces →
      s.AtRest → (∀ more, pieces = .hole :: more → s = {}) →
      ∃ s', Lex.readAll r.toRules s
        ((pieces.map (Template.Piece.code value origin)).map r.glyphs).flatten = some s' ∧
          s'.AtRest := by
    intro pieces
    induction pieces with
    | nil => exact fun s _ hs _ => ⟨s, rfl, hs⟩
    | cons piece pieces ih =>
      intro s hspaced hs hhole
      cases piece with
      | text body =>
        obtain ⟨htext, hspaced⟩ := hspaced
        obtain ⟨s', hs', hrest⟩ := ih {} hspaced ⟨rfl, .inl rfl⟩ fun _ _ => rfl
        have hbody : body.toList ≠ [] := by simpa using htext
        have hgap := Lex.readAll_gap hhide hs hbody
        rw [List.map_cons, List.map_cons, List.flatten_cons, Template.Piece.code,
          glyphs_hidden hshows, Lex.readAll_append_of_eq_some hgap]
        exact ⟨s', hs', hrest⟩
      | hole =>
        obtain ⟨hnext, hspaced⟩ := hspaced
        obtain rfl := hhole pieces rfl
        obtain ⟨s₁, hs₁, hrest₁, _⟩ := hvalue.parenthesized
        obtain ⟨s', hs', hrest⟩ := ih s₁ hspaced hrest₁ fun more hmore => absurd hmore (hnext more)
        rw [List.map_cons, List.map_cons, List.flatten_cons, Template.Piece.code,
          Lex.readAll_append_of_eq_some hs₁]
        exact ⟨s', hs', hrest⟩
  rw [Sound, Template.apply, glyphs_cat]
  exact hread t.pieces {} hspaced ⟨rfl, .inl rfl⟩ fun _ _ => rfl

theorem treats_hidden {format : Format} (hmade : format.IsMade)
    (hshows : r.shows format.origin = false) (hhide : r.mayHide format.origin = true) :
    r.Treats format where
  type := sound_hidden hshows hhide format.type
  convert d _ hvalue := sound_apply_hidden (hmade.convert d).spaced hshows hhide hvalue
  test hvalue test htest := by
    obtain ⟨t, ht, rfl⟩ := Option.map_eq_some_iff.1 htest
    exact sound_apply_hidden (hmade.test t ht).spaced hshows hhide hvalue

end Reader

/-! ## Shown text -/

/-- What a piece of a template is in a text that is put together. -/
def Template.Piece.lex : Template.Piece → Lex.Piece
  | .text body => .text body.toList
  | .hole => .value

/-- All brackets are closed, whatever balanced value fills the holes, and the text has members of none of
the modules that the compiler's own text speaks of. -/
def Template.closes (t : Template) : Bool := Lex.Piece.close (t.pieces.map Piece.lex) false

/-- So it is with all text of the format. -/
def Format.closes (f : Format) : Bool :=
  Lex.Piece.close [.text f.type.toList] false && f.parse.closes && f.serialize.closes &&
    f.instanceTest.all Template.closes

namespace Reader

variable {r : Reader} (hlenient : (Lex.strict false).Refines r.toRules)
  (hshows : ∀ origin, r.shows origin = true)

include hshows

theorem glyphs_shown (code : Code) : r.glyphs code = code.render.toList.map .char := by
  obtain ⟨fragments⟩ := code
  induction fragments with
  | nil => rfl
  | cons f fragments ih =>
    have hglyphs : r.glyphs ⟨f :: fragments⟩ =
        f.text.toList.map (r.glyph f.origin) ++ r.glyphs ⟨fragments⟩ := rfl
    have hglyph : r.glyph f.origin = .char := funext fun c => if_pos (hshows f.origin)
    rw [hglyphs, hglyph, ih, Code.render_cons, String.toList_append, List.map_append]

include hlenient

theorem sound_apply_shown {t : Template} (h : t.closes = true) {value : Code} (hvalue : r.Value value)
    (origin : Origin) : r.Sound (t.apply value origin) := by
  have hfits : ∀ pieces : List Template.Piece,
      r.Fits (pieces.map Template.Piece.lex) (pieces.map (Template.Piece.code value .site)) := by
    intro pieces
    induction pieces with
    | nil => exact .nil
    | cons piece pieces ih =>
      cases piece with
      | text body =>
        have hbody : Template.Piece.code value .site (.text body) =
            Code.site (String.ofList body.toList) := by
          rw [String.ofList_toList]
          rfl
        rw [List.map_cons, List.map_cons, hbody]
        exact .text ih
      | hole => exact .value hvalue.parenthesized ih
  have hsound : r.Sound (Code.cat (t.pieces.map (Template.Piece.code value .site))) := by
    rw [Sound, glyphs_cat]
    exact (hfits t.pieces).lex.toSound hlenient h
  refine hsound.congr ?_
  -- the same is seen of a text, whatever its origin is
  have hpiece (piece : Template.Piece) : (Template.Piece.code value origin piece).render =
      (Template.Piece.code value .site piece).render := by
    cases piece <;> simp [Template.Piece.code]
  simp only [glyphs_shown hshows, Template.apply, Code.render_cat, List.map_map]
  simp only [Function.comp_def, hpiece]

theorem treats_shown {format : Format} (h : format.closes = true) : r.Treats format := by
  simp only [Format.closes, Bool.and_eq_true] at h
  obtain ⟨⟨⟨htype, hparse⟩, hserialize⟩, htest⟩ := h
  constructor
  · have hsound : r.Sound (Code.site format.type) := by
      have hgiven := (Lex.Fits.text .nil : Lex.Fits r.toRules _ _).toSound hlenient htype
      simpa [Sound] using hgiven
    refine hsound.congr ?_
    simp only [glyphs_shown hshows, Format.typeCode, Code.render_tagged, Code.render_site]
  · intro d value hvalue
    cases d with
    | parse => exact sound_apply_shown hlenient hshows hparse hvalue _
    | serialize => exact sound_apply_shown hlenient hshows hserialize hvalue _
  · intro value hvalue test hmem
    obtain ⟨t, ht, rfl⟩ := Option.map_eq_some_iff.1 hmem
    rw [ht] at htest
    exact sound_apply_shown hlenient hshows htest hvalue _

end Reader

/-- The text of the built-in formats is closed. -/
theorem Registry.all_builtin_closes (runtimeModule : String) :
    All (·.closes = true) (builtin runtimeModule) := by
  refine all_builtin fun f hf => ?_
  simp only [Format.builtin, List.mem_cons, List.not_mem_nil, or_false] at hf
  rcases hf with rfl | rfl | rfl | rfl | rfl | rfl | rfl
  all_goals
    dsimp only [Format.closes]
    decide +kernel

end OpenApi

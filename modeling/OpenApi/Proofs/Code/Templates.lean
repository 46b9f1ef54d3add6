import OpenApi.Code.DocComment
import OpenApi.PathTemplate
import OpenApi.Proofs.Code.TopLevel
import OpenApi.Proofs.Document.Spelling

/-!
Template literals and comments, as generated code has them. Whatever characters a path is made of, the
template literal for it ends where it should, and its holes are those of the placeholders; whatever the
summary and the description of an operation say, the comment with them ends after them.
-/

namespace OpenApi

namespace Lex

variable {r : Rules} {opened : List Bracket} {s : State}

/-! ## Template literals -/

/-- The reader is in the text of a template literal. -/
def State.InLiteral (s : State) (opened : List Bracket) : Prop :=
  s = .inside .literal opened ∨ s = .inside .dollar opened

/-- A character as it stands in a template literal, unless it opens a hole together with the next
one. -/
def literalChar (c : Char) : List Char :=
  if c = '\\' then ['\\', '\\'] else if c = '\x60' then ['\\', '\x60'] else [c]

theorem readChar_literal {c : Char} (hs : s.InLiteral opened)
    (hhole : s = .inside .dollar opened → c ≠ '\x7b') :
    readChar r s c = some (readLiteral (.inside .literal opened) c) := by
  rcases hs with rfl | rfl
  · rfl
  · exact if_neg (hhole rfl)

theorem readAll_literal {c : Char} (hs : s.InLiteral opened)
    (hhole : s = .inside .dollar opened → c ≠ '\x7b') (cs : List Char) :
    readAll r s ((c :: cs).map .char) =
      readAll r (readLiteral (.inside .literal opened) c) (cs.map .char) := by
  rw [List.map_cons, readAll, read, readChar_literal hs hhole, Option.bind_some]

/-- An escaped character is one of the text, whatever it is. -/
theorem readAll_literalEscape (hs : s.InLiteral opened) (c : Char) (cs : List Char) :
    readAll r s (('\\' :: c :: cs).map .char) =
      readAll r (.inside .literal opened) (cs.map .char) := by
  rw [readAll_literal hs fun _ => by decide]
  rfl

theorem readLiteral_plain {c : Char} (hc : c ≠ '\\' ∧ c ≠ '\x60' ∧ c ≠ '$') :
    readLiteral (.inside .literal opened) c = .inside .literal opened := by
  unfold readLiteral
  split
  · exact absurd rfl hc.2.1
  · exact absurd rfl hc.1
  · exact absurd rfl hc.2.2
  · rfl

/-- A dollar sign that no brace follows stays by itself. -/
theorem replacePair_dollar {cs : List Char} (h : ∀ rest, cs ≠ '\x7b' :: rest) :
    Text.replacePair '$' '\x7b' ['\\', '$', '\x7b'] ('$' :: cs.flatMap literalChar) =
      '$' :: Text.replacePair '$' '\x7b' ['\\', '$', '\x7b'] (cs.flatMap literalChar) := by
  refine Text.replacePair_cons_of_forall_ne fun more heq => ?_
  cases cs with
  | nil => cases heq
  | cons c rest =>
    rw [List.flatMap_cons, literalChar] at heq
    split at heq
    · cases heq
    split at heq
    · cases heq
    · exact h rest (congrArg (· :: rest) (List.cons.inj heq).1)

/-- Text that goes into a template literal stays text. -/
theorem readAll_escape : ∀ (cs : List Char) (s : State), s.InLiteral opened →
    (s = .inside .dollar opened → ∀ rest, cs ≠ '\x7b' :: rest) →
    ∃ s', readAll r s ((Text.replacePair '$' '\x7b' ['\\', '$', '\x7b']
      (cs.flatMap literalChar)).map .char) = some s' ∧ s'.InLiteral opened
  | [], s, hs, _ => ⟨s, rfl, hs⟩
  | c :: rest, s, hs, hhole => by
    by_cases hslash : c = '\\'
    case pos =>
      subst hslash
      have heq : ('\\' :: rest).flatMap literalChar = '\\' :: '\\' :: rest.flatMap literalChar := rfl
      rw [heq, Text.replacePair_cons_of_ne (by decide), Text.replacePair_cons_of_ne (by decide),
        readAll_literalEscape hs]
      exact readAll_escape rest _ (.inl rfl) nofun
    by_cases hmark : c = '\x60'
    case pos =>
      subst hmark
      have heq : ('\x60' :: rest).flatMap literalChar = '\\' :: '\x60' :: rest.flatMap literalChar := rfl
      rw [heq, Text.replacePair_cons_of_ne (by decide), Text.replacePair_cons_of_ne (by decide),
        readAll_literalEscape hs]
      exact readAll_escape rest _ (.inl rfl) nofun
    have hself : (c :: rest).flatMap literalChar = c :: rest.flatMap literalChar := by
      rw [List.flatMap_cons, literalChar, if_neg hslash, if_neg hmark]
      rfl
    have hbrace : s = .inside .dollar opened → c ≠ '\x7b' := fun hdollar heq =>
      hhole hdollar rest (heq ▸ rfl)
    rw [hself]
    by_cases hdollar : c = '$'
    case neg =>
      rw [Text.replacePair_cons_of_ne hdollar, readAll_literal hs hbrace,
        readLiteral_plain ⟨hslash, hmark, hdollar⟩]
      exact readAll_escape rest _ (.inl rfl) nofun
    subst hdollar
    by_cases hhead : ∃ more, rest = '\x7b' :: more
    case pos =>
      -- the pair that would open a hole gets a backslash, and the text goes on behind it
      obtain ⟨more, rfl⟩ := hhead
      have hpair : Text.replacePair '$' '\x7b' ['\\', '$', '\x7b']
          ('$' :: ('\x7b' :: more).flatMap literalChar) = '\\' :: '$' :: '\x7b' ::
            Text.replacePair '$' '\x7b' ['\\', '$', '\x7b'] (more.flatMap literalChar) := by
        rw [List.flatMap_cons]
        exact if_pos ⟨rfl, rfl⟩
      rw [hpair, readAll_literalEscape hs, readAll_literal (.inl rfl) nofun]
      exact readAll_escape more _ (.inl rfl) nofun
    case neg =>
      have hrest : ∀ more, rest ≠ '\x7b' :: more := fun more heq => hhead ⟨more, heq⟩
      rw [replacePair_dollar hrest, readAll_literal hs hbrace]
      exact readAll_escape rest _ (.inr rfl) fun _ => hrest

end Lex

namespace Reader

variable {r : Reader}

/-- A hole with sound code in it leads back into the text. -/
theorem readAll_hole {code : Code} (h : r.Sound code) {s : Lex.State} {opened : List Lex.Bracket}
    (hs : s.InLiteral opened) :
    Lex.readAll r.toRules s (r.glyphs (Code.cat ["$\x7b", code, "\x7d"])) =
      some (.inside .literal opened) := by
  have hfits : r.Fits _ ["$\x7b", code, "\x7d"] := .text (.sound h (.text .nil))
  have hpieces : ∀ mode ∈ [Lex.Mode.literal, .dollar],
      Lex.Front.pieces true (.here (.inside mode []))
        [.text ['$', '\x7b'], .sound, .text ['\x7d']] = some (.here (.inside .literal [])) := by
    decide
  have hread : ∀ mode ∈ [Lex.Mode.literal, .dollar],
      Lex.readAll r.toRules (.inside mode opened) (r.glyphs (Code.cat ["$\x7b", code, "\x7d"])) =
        some (.inside .literal opened) := by
    intro mode hmode
    obtain ⟨s', hs', rfl⟩ := hfits.lex.reads r.lenient (hpieces mode hmode) rfl
    rw [glyphs_cat]
    exact Lex.readAll_below hs' opened
  rcases hs with rfl | rfl
  · exact hread .literal (by decide)
  · exact hread .dollar (by decide)

/-- The parts of a path, as the template literal for it has them. -/
def pathPart (f : String → Code) : PathPart → Code
  | .literal text => Code.site (String.ofList (PathTemplate.escape text))
  | .placeholder name => Code.cat ["$\x7b", f name, "\x7d"]

theorem readAll_part_literal (f : String → Code) (opened : List Lex.Bracket) (text : List Char) :
    ∃ s, Lex.readAll r.toRules (.inside .literal opened)
      (((PathTemplate.literal text).map fun part => r.glyphs (pathPart f part)).flatten) = some s ∧
      s.InLiteral opened := by
  unfold PathTemplate.literal
  split
  · exact ⟨_, rfl, .inl rfl⟩
  · have hstart : (Lex.State.inside .literal opened).InLiteral opened := .inl rfl
    obtain ⟨s, hs, hin⟩ := Lex.readAll_escape (r := r.toRules) text _ hstart nofun
    refine ⟨s, ?_, hin⟩
    rw [List.map_singleton, List.flatten_singleton, pathPart, glyphs_site, PathTemplate.escape,
      String.toList_ofList, String.toList_ofList]
    exact hs

theorem readAll_parts {f : String → Code} (opened : List Lex.Bracket) (path : List Char) :
    (∀ name ∈ PathTemplate.placeholders (PathTemplate.ofChars path), r.Sound (f name)) →
    ∃ s, Lex.readAll r.toRules (.inside .literal opened)
      (((PathTemplate.ofChars path).map fun part => r.glyphs (pathPart f part)).flatten) = some s ∧
      s.InLiteral opened := by
  fun_induction PathTemplate.ofChars path with
  | case1 path _ => exact fun _ => readAll_part_literal f opened path
  | case2 path _ _ _ _ => exact fun _ => readAll_part_literal f opened path
  | case3 path before _ inside _ _ rest _ ih =>
    intro hf
    have hplaceholders : PathTemplate.placeholders (PathTemplate.literal before ++
        .placeholder (String.ofList (inside.takeWhile (· ≠ '\x7d'))) :: PathTemplate.ofChars rest) =
        PathTemplate.placeholders (PathTemplate.literal before) ++
          String.ofList (inside.takeWhile (· ≠ '\x7d')) ::
            PathTemplate.placeholders (PathTemplate.ofChars rest) :=
      List.filterMap_append
    rw [hplaceholders] at hf
    obtain ⟨hname, hrest⟩ := List.forall_mem_cons.1 (List.forall_mem_append.1 hf).2
    obtain ⟨s, hs, hin⟩ := readAll_part_literal (r := r) f opened before
    obtain ⟨s', hs', hin'⟩ := ih hrest
    refine ⟨s', ?_, hin'⟩
    rw [List.map_append, List.flatten_append, Lex.readAll_append_of_eq_some hs, List.map_cons,
      List.flatten_cons, pathPart, Lex.readAll_append_of_eq_some (readAll_hole hname hin)]
    exact hs'

/-- The template literal for a path. -/
theorem complete_render {f : String → Code} {path : String}
    (hf : ∀ name ∈ (PathTemplate.ofString path).placeholders, r.Sound (f name)) :
    r.Complete ((PathTemplate.ofString path).render f) := by
  obtain ⟨s, hs, hin⟩ := readAll_parts [] path.toList hf
  have hparts : (PathTemplate.ofString path).render f =
      Code.cat ["\x60", Code.cat ((PathTemplate.ofString path).map (pathPart f)), "\x60"] := by
    unfold PathTemplate.render
    congr 1
  have hmark : r.glyphs "\x60" = [.char '\x60'] := glyphs_site _ _
  have hend : Lex.readAll r.toRules s [.char '\x60'] = some {} := by
    rw [Lex.readAll, Lex.read, Lex.readChar_literal hin fun _ => by decide]
    rfl
  rw [Complete, hparts, glyphs_cat]
  simp only [List.map_cons, List.map_nil, List.flatten_cons, List.flatten_nil, List.append_nil, hmark,
    glyphs_cat, List.map_map]
  rw [List.singleton_append]
  show Lex.readAll r.toRules (.inside .literal []) _ = _
  exact (Lex.readAll_append_of_eq_some hs).trans hend

end Reader

/-! ## Comments -/

namespace Lex

variable {r : Rules} {opened : List Bracket} {s : State}

/-- The reader is in a comment. -/
def State.InComment (s : State) (opened : List Bracket) : Prop :=
  s = .inside .comment opened ∨ s = .inside .star opened

theorem State.InComment.not_isTop (hs : s.InComment opened) : s.isTop = false := by
  rcases hs with rfl | rfl <;> simp [isTop, inside]

theorem read_comment {c : Char} (hs : s.InComment opened)
    (hend : s = .inside .star opened → c ≠ '/') :
    read r s (.char c) = some (.inside (if c = '*' then .star else .comment) opened) := by
  rcases hs with rfl | rfl
  · rfl
  · exact if_neg (hend rfl)

/-- Text without the end of a comment stays in it. -/
theorem inside_harmless : ∀ (cs : List Char) (s : State), s.InComment opened →
    (s = .inside .star opened → ∀ rest, cs ≠ '/' :: rest) →
    ∃ s', Inside r s ((Text.replacePair '*' '/' ['*', '\\', '/'] cs).map .char) s' ∧
      s'.InComment opened
  | [], s, hs, _ => ⟨s, .nil, hs⟩
  | c :: rest, s, hs, hend => by
    have hslash : s = .inside .star opened → c ≠ '/' := fun hstar heq =>
      hend hstar rest (heq ▸ rfl)
    have hread := read_comment (r := r) hs hslash
    by_cases hstar : c = '*'
    case neg =>
      rw [if_neg hstar] at hread
      obtain ⟨s', hs', hin⟩ := inside_harmless rest _ (.inl rfl) nofun
      rw [Text.replacePair_cons_of_ne hstar]
      exact ⟨s', .cons hs.not_isTop hread hs', hin⟩
    subst hstar
    by_cases hhead : ∃ more, rest = '/' :: more
    case pos =>
      obtain ⟨more, rfl⟩ := hhead
      have hpair : Text.replacePair '*' '/' ['*', '\\', '/'] ('*' :: '/' :: more) =
          '*' :: '\\' :: '/' :: Text.replacePair '*' '/' ['*', '\\', '/'] more :=
        if_pos ⟨rfl, rfl⟩
      have hcomment : (State.inside .comment opened).InComment opened := .inl rfl
      have hstar : (State.inside .star opened).InComment opened := .inr rfl
      obtain ⟨s', hs', hin⟩ := inside_harmless more _ hcomment nofun
      rw [hpair]
      exact ⟨s', .cons hs.not_isTop hread (.cons hstar.not_isTop rfl
        (.cons hcomment.not_isTop rfl hs')), hin⟩
    case neg =>
      have hrest : ∀ more, rest ≠ '/' :: more := fun more heq => hhead ⟨more, heq⟩
      obtain ⟨s', hs', hin⟩ := inside_harmless rest _ (.inr rfl) fun _ => hrest
      rw [Text.replacePair_cons_of_forall_ne hrest]
      exact ⟨s', .cons hs.not_isTop hread hs', hin⟩

/-- A line that a comment can have. -/
def Harmless (r : Rules) (line : String) : Prop :=
  ∃ s, Inside r (.inside .comment []) (line.toList.map .char) s ∧ s.InComment []

theorem harmless_line (line : List Char) :
    Harmless r (String.ofList (Text.replacePair '*' '/' ['*', '\\', '/'] line)) := by
  rw [Harmless, String.toList_ofList]
  exact inside_harmless line _ (.inl rfl) nofun

theorem harmless_commentLines (o : Operation) : ∀ line ∈ o.commentLines, Harmless r line := by
  have hempty : Harmless r "" := ⟨_, .nil, .inl rfl⟩
  have hdeprecated : Harmless r "@deprecated" :=
    harmless_line "@deprecated".toList
  have hlines : ∀ text, ∀ line ∈ Text.harmlessLines text, Harmless r line := by
    intro text line hline
    obtain ⟨line, _, rfl⟩ := List.mem_map.1 hline
    exact harmless_line line.toList
  have hsaid : ∀ (paragraphs lines : List String), (∀ line ∈ lines, Harmless r line) →
      ∀ line ∈ paragraphs.foldl (fun lines text =>
        lines ++ (if lines.isEmpty then [] else [""]) ++ Text.harmlessLines text) lines,
        Harmless r line := by
    intro paragraphs
    induction paragraphs with
    | nil => exact fun lines h => h
    | cons text paragraphs ih =>
      intro lines h
      refine ih _ (List.forall_mem_append.2 ⟨List.forall_mem_append.2 ⟨h, ?_⟩, hlines text⟩)
      split
      · exact List.forall_mem_nil _
      · exact List.forall_mem_singleton.2 hempty
  refine List.forall_mem_append.2 ⟨hsaid _ [] (List.forall_mem_nil _), ?_⟩
  split
  · exact List.forall_mem_singleton.2 hdeprecated
  · exact List.forall_mem_nil _

/-- A line of a comment. -/
def commentLine (line : String) : String := if line.isEmpty then " *\n" else " * " ++ line ++ "\n"

theorem inside_commentLine {line : String} (h : Harmless r line) :
    Inside r (.inside .comment []) ((commentLine line).toList.map .char)
      (.inside .comment []) := by
  have hcomment : (State.inside .comment []).InComment [] := .inl rfl
  have hstar : (State.inside .star []).InComment [] := .inr rfl
  have blank {s : State} {gs : List Glyph}
      (h : Inside r (.inside .comment []) gs s) : Inside r (.inside .comment [])
        (.char ' ' :: .char '*' :: .char ' ' :: gs) s :=
    .cons hcomment.not_isTop rfl (.cons hcomment.not_isTop rfl (.cons hstar.not_isTop rfl h))
  unfold commentLine
  split
  · exact .cons hcomment.not_isTop rfl (.cons hcomment.not_isTop rfl (.cons hstar.not_isTop rfl .nil))
  · obtain ⟨s, hs, hin⟩ := h
    have hline : Inside r (.inside .comment []) (line.toList.map .char ++ [Glyph.char '\n'])
        (.inside .comment []) :=
      hs.append (.cons hin.not_isTop (read_comment hin fun _ => by decide) .nil)
    have htext : (" * " ++ line ++ "\n").toList.map Glyph.char =
        .char ' ' :: .char '*' :: .char ' ' :: (line.toList.map .char ++ [Glyph.char '\n']) := by simp
    rw [htext]
    exact blank hline

/-- The comment on an operation, if there is one, ends after its last line. -/
theorem docComment_inside (o : Operation) : o.docComment = "" ∨ ∃ lines : String,
    o.docComment = "/**\n" ++ lines ++ " */\n" ∧ ∀ r : Rules,
      Inside r (.inside .comment []) (lines.toList.map .char) (.inside .comment []) := by
  unfold Operation.docComment
  split
  case h_1 => exact .inl rfl
  case h_2 =>
    refine .inr ⟨String.join (o.commentLines.map commentLine), rfl, fun r => ?_⟩
    have hharmless := harmless_commentLines (r := r) o
    generalize o.commentLines = lines at hharmless ⊢
    induction lines with
    | nil => exact .nil
    | cons line lines ih =>
      obtain ⟨hline, hlines⟩ := List.forall_mem_cons.1 hharmless
      rw [List.map_cons, String.join_cons, String.toList_append, List.map_append]
      exact (inside_commentLine hline).append (ih hlines)

end Lex

namespace Reader

variable {r : Reader}

/-- The comment on an operation. -/
theorem complete_docComment (o : Operation) : r.Complete (Code.site o.docComment) := by
  rw [Complete, glyphs_site]
  obtain heq | ⟨lines, heq, hlines⟩ := Lex.docComment_inside o
  · rw [heq]
    rfl
  · rw [heq, String.toList_append, String.toList_append, List.append_assoc, List.map_append,
      List.map_append]
    show Lex.readAll r.toRules (.inside .comment []) (lines.toList.map .char ++ _) = _
    rw [Lex.readAll_append_of_eq_some (hlines r.toRules).readAll]
    rfl

end Reader

end OpenApi

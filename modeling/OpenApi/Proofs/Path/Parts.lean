import Mathlib.Data.List.Chain
import OpenApi.Proofs.Code.Templates

/-!
Paths and their parts. A path is cut where a brace opens that is closed further on, and its parts written
one after the other are the path again (`isPartition_ofChars`). The template literal for the path has these
parts and no others for whoever reads it by the rules of template literals, whatever stands in its holes
(`readTemplate_render`).
-/

namespace OpenApi

namespace PathTemplate

/-! ## Parts -/

/-- A part as paths have it. -/
def partChars : PathPart → List Char
  | .literal text => text.toList
  | .placeholder name => '\x7b' :: (name.toList ++ ['\x7d'])

/-- The parts one after the other, as paths have them. -/
def chars (t : PathTemplate) : List Char := t.flatMap partChars

/-- The part is text. -/
def IsLiteral : PathPart → Prop
  | .literal _ => True
  | .placeholder _ => False

/-- The parts of a path: together they are the path, no text is empty or stands beside another one, no
name goes on behind a brace that closes, and a brace that opens in a text is closed nowhere behind it. -/
structure IsPartition (path : List Char) (t : PathTemplate) : Prop where
  chars_eq : t.chars = path
  nonempty : .literal "" ∉ t
  apart : t.IsChain fun a b => ¬(IsLiteral a ∧ IsLiteral b)
  names : ∀ name ∈ t.placeholders, '\x7d' ∉ name.toList
  unclosed : ∀ before text after, t = before ++ .literal text :: after →
    ∀ front back, text.toList = front ++ '\x7b' :: back → '\x7d' ∉ back ++ chars after

theorem IsPartition.nil : IsPartition [] [] where
  chars_eq := rfl
  nonempty := List.not_mem_nil
  apart := .nil
  names := List.forall_mem_nil _
  unclosed before text after h := by simp at h

theorem IsPartition.placeholder {path name : List Char} {t : PathTemplate} (h : IsPartition path t)
    (hname : '\x7d' ∉ name) :
    IsPartition ('\x7b' :: (name ++ '\x7d' :: path)) (.placeholder (String.ofList name) :: t) where
  chars_eq := by
    rw [chars, List.flatMap_cons, ← chars, h.chars_eq]
    simp [partChars]
  nonempty := by simpa using h.nonempty
  apart := List.isChain_cons.2 ⟨fun part _ hboth => hboth.1, h.apart⟩
  names := by
    have hnames : placeholders (.placeholder (String.ofList name) :: t) =
        String.ofList name :: placeholders t := rfl
    rw [hnames, List.forall_mem_cons, String.toList_ofList]
    exact ⟨hname, h.names⟩
  unclosed before text after heq := by
    cases before with
    | nil => cases heq
    | cons part before => exact h.unclosed before text after (List.cons.inj heq).2

/-- Text before parts that begin with a hole, or alone. -/
theorem IsPartition.literal {path text : List Char} {t : PathTemplate} (h : IsPartition path t)
    (hhole : ∀ part ∈ t.head?, ¬IsLiteral part)
    (hunclosed : ∀ front back, text = front ++ '\x7b' :: back → '\x7d' ∉ back ++ path) :
    IsPartition (text ++ path) (PathTemplate.literal text ++ t) := by
  unfold PathTemplate.literal
  split
  case isTrue hempty => rwa [List.isEmpty_iff.1 hempty]
  case isFalse hempty =>
    refine ⟨?_, ?_, ?_, h.names, ?_⟩
    · rw [List.singleton_append, chars, List.flatMap_cons, ← chars, h.chars_eq, partChars,
        String.toList_ofList]
    · have htext : String.ofList text ≠ "" := by simpa using hempty
      refine List.not_mem_cons_of_ne_of_not_mem (fun heq => htext ?_) h.nonempty
      exact (PathPart.literal.inj heq).symm
    · exact List.isChain_cons.2 ⟨fun part hpart hboth => hhole part hpart hboth.2, h.apart⟩
    · intro before text' after heq
      cases before with
      | nil =>
        obtain ⟨htext, hafter⟩ : _ ∧ t = after := List.cons.inj heq
        cases htext
        subst hafter
        rw [String.toList_ofList, h.chars_eq]
        exact hunclosed
      | cons part before => exact h.unclosed before text' after (List.cons.inj heq).2

/-- Text with no more parts behind it. -/
theorem isPartition_literal {text : List Char}
    (h : ∀ front back, text = front ++ '\x7b' :: back → '\x7d' ∉ back) :
    IsPartition text (PathTemplate.literal text) := by
  have hunclosed : ∀ front back, text = front ++ '\x7b' :: back → '\x7d' ∉ back ++ [] :=
    fun front back heq => by rw [List.append_nil]; exact h front back heq
  simpa using IsPartition.nil.literal (by simp) hunclosed

theorem isPartition_ofChars (path : List Char) : IsPartition path (ofChars path) := by
  fun_induction ofChars path with
  | case1 path hopened =>
    -- no brace opens
    refine isPartition_literal fun front back heq => absurd ?_ (Text.notMem_of_dropWhile_eq_nil hopened)
    rw [heq]
    exact List.mem_append_right _ List.mem_cons_self
  | case2 path brace inside hopened hclosed =>
    -- behind the first brace that opens none closes
    refine isPartition_literal fun front back heq hback => ?_
    rw [Text.eq_append_of_dropWhile_eq_cons hopened] at heq
    have hsuffix := Text.suffix_of_append_eq (Text.notMem_takeWhile_ne '\x7b' path) heq
    exact Text.notMem_of_dropWhile_eq_nil hclosed (hsuffix.subset hback)
  | case3 path before brace inside hopened brace' rest hclosed ih =>
    have hpath := Text.eq_append_of_dropWhile_eq_cons hopened
    have hinside := Text.eq_append_of_dropWhile_eq_cons hclosed
    have hpart := ih.placeholder (Text.notMem_takeWhile_ne '\x7d' inside)
    rw [← hinside] at hpart
    have hbefore : ∀ front back, before = front ++ '\x7b' :: back →
        '\x7d' ∉ back ++ '\x7b' :: inside := by
      intro front back heq
      have hbrace : '\x7b' ∈ before := by
        rw [heq]
        exact List.mem_append_right front List.mem_cons_self
      exact absurd hbrace (Text.notMem_takeWhile_ne '\x7b' path)
    have hparts := hpart.literal (by simp [IsLiteral]) hbefore
    rwa [← hpath] at hparts

/-! ## Template literals -/

/-- What is left of a line end behind its carriage return is skipped. -/
def behindReturn : List Char → List Char
  | '\n' :: rest => rest
  | rest => rest

theorem length_behindReturn (rest : List Char) : (behindReturn rest).length ≤ rest.length := by
  unfold behindReturn
  split <;> simp

/-- Reads the text of a template literal: the parts of it up to the backtick that ends it, and what
stands behind that. A backslash makes the next character one of the text, a dollar sign with a brace
opens a hole, and every line ends with a line feed. Where a hole ends depends on the code in it, so that
code is given: `contents` has it for the holes in turn, and each hole has to hold the next of them. The
characters in `text` have been read since the last hole. -/
def readLiteral (contents : List String) (text : List Char) :
    List Char → Option (List PathPart × List Char)
  | [] => none
  | c :: rest =>
    if c = '\x60' then some (literal text, rest)
    else if c = '\\' then
      match rest with
      | [] => none
      | d :: rest => readLiteral contents (text ++ [d]) rest
    else if c = '\r' then
      readLiteral contents (text ++ ['\n']) (behindReturn rest)
    else if c = '$' ∧ rest.head? = some '\x7b' then
      match contents with
      | [] => none
      | content :: contents =>
        match _hole : ('\x7b' :: (content.toList ++ ['\x7d'])).isPrefixOf? rest with
        | none => none
        | some rest =>
          (readLiteral contents [] rest).map fun (parts, rest) =>
            (literal text ++ .placeholder content :: parts, rest)
    else readLiteral contents (text ++ [c]) rest
termination_by rest => rest.length
decreasing_by
  all_goals try simp only [List.length_cons]
  all_goals try omega
  · exact Nat.lt_succ_of_le (length_behindReturn _)
  rw [List.isPrefixOf?_eq_some_iff_append_eq] at _hole
  rw [← _hole]
  simp only [List.length_append, List.length_cons]
  omega

/-- Reads a template literal: its parts, and what stands behind it. -/
def readTemplate (contents : List String) (code : String) : Option (List PathPart × List Char) :=
  match code.toList with
  | '\x60' :: rest => readLiteral contents [] rest
  | _ => none

section Reading

variable {contents : List String} {text rest : List Char}

theorem readLiteral_close :
    readLiteral contents text ('\x60' :: rest) = some (literal text, rest) := by
  rw [readLiteral.eq_def]
  exact if_pos rfl

theorem readLiteral_escaped (c : Char) :
    readLiteral contents text ('\\' :: c :: rest) = readLiteral contents (text ++ [c]) rest := by
  rw [readLiteral.eq_def]
  simp only [Char.reduceEq, if_false, if_true]

theorem readLiteral_plain {c : Char} (hclose : c ≠ '\x60') (hescape : c ≠ '\\')
    (hreturn : c ≠ '\r') (hhole : c = '$' → rest.head? ≠ some '\x7b') :
    readLiteral contents text (c :: rest) = readLiteral contents (text ++ [c]) rest := by
  rw [readLiteral.eq_def]
  simp only [hclose, hescape, hreturn, if_false]
  exact if_neg fun h => hhole h.1 h.2

theorem readLiteral_hole (content : String) :
    readLiteral (content :: contents) text
        ('$' :: '\x7b' :: (content.toList ++ '\x7d' :: rest)) =
      (readLiteral contents [] rest).map fun (parts, rest) =>
        (literal text ++ .placeholder content :: parts, rest) := by
  have hhole : ('\x7b' :: (content.toList ++ ['\x7d'])).isPrefixOf?
      ('\x7b' :: (content.toList ++ '\x7d' :: rest)) = some rest := by
    rw [List.isPrefixOf?_eq_some_iff_append_eq]
    simp
  rw [readLiteral, if_neg (by decide), if_neg (by decide), if_neg (by decide), if_pos ⟨rfl, rfl⟩]
  split
  case h_1 hnone =>
    rw [hhole] at hnone
    cases hnone
  case h_2 hsome =>
    rw [hhole] at hsome
    cases hsome
    rfl

end Reading

/-- Text inside of a template literal, by its characters. -/
def escaped (text : List Char) : List Char :=
  Text.replacePair '$' '\x7b' ['\\', '$', '\x7b'] (text.flatMap Lex.literalChar)

theorem escaped_of_ne {c : Char} (hescape : c ≠ '\\') (hclose : c ≠ '\x60') (hdollar : c ≠ '$')
    (text : List Char) : escaped (c :: text) = c :: escaped text := by
  rw [escaped, List.flatMap_cons, Lex.literalChar, if_neg hescape, if_neg hclose]
  exact Text.replacePair_cons_of_ne hdollar _

/-- A backslash stands before the characters that would be read as something else. -/
theorem escaped_special {c : Char} (h : c = '\\' ∨ c = '\x60') (text : List Char) :
    escaped (c :: text) = '\\' :: c :: escaped text := by
  rcases h with rfl | rfl <;>
  · show Text.replacePair _ _ _ (_ :: _ :: _) = _
    rw [Text.replacePair_cons_of_ne (by decide), Text.replacePair_cons_of_ne (by decide)]
    rfl

theorem escaped_pair (text : List Char) :
    escaped ('$' :: '\x7b' :: text) = '\\' :: '$' :: '\x7b' :: escaped text := by
  rw [escaped, List.flatMap_cons, List.flatMap_cons]
  exact if_pos ⟨rfl, rfl⟩

theorem escaped_dollar {text : List Char} (h : text.head? ≠ some '\x7b') :
    escaped ('$' :: text) = '$' :: escaped text := by
  refine Lex.replacePair_dollar ?_
  rintro rest rfl
  exact h rfl

/-- Escaping puts no brace in front. -/
theorem head?_escaped {text : List Char} (h : text.head? ≠ some '\x7b') :
    (escaped text).head? ≠ some '\x7b' := by
  match text with
  | [] => simp [escaped, Text.replacePair]
  | c :: text =>
    by_cases hspecial : c = '\\' ∨ c = '\x60'
    case pos => simp [escaped_special hspecial]
    rw [not_or] at hspecial
    by_cases hdollar : c = '$'
    case neg => simpa [escaped_of_ne hspecial.1 hspecial.2 hdollar] using h
    subst hdollar
    by_cases hpair : text.head? = some '\x7b'
    case neg => simp [escaped_dollar hpair]
    obtain ⟨rest, rfl⟩ := List.head?_eq_some_iff.1 hpair
    simp [escaped_pair]

/-- Escaped text is read as the text that it stands for. -/
theorem readLiteral_append_escaped (contents : List String) {rest : List Char}
    (hrest : rest.head? ≠ some '\x7b') : ∀ (cs text : List Char), '\r' ∉ cs →
      readLiteral contents text (escaped cs ++ rest) = readLiteral contents (text ++ cs) rest
  | [], text, _ => by simp [escaped, Text.replacePair]
  | c :: cs, text, hreturn => by
    obtain ⟨hc, hcs⟩ : '\r' ≠ c ∧ '\r' ∉ cs := by simpa using hreturn
    have ih := fun text => readLiteral_append_escaped contents hrest cs text hcs
    have hcons (text : List Char) : text ++ c :: cs = text ++ [c] ++ cs := by simp
    rw [hcons]
    by_cases hspecial : c = '\\' ∨ c = '\x60'
    case pos => rw [escaped_special hspecial, List.cons_append, List.cons_append, readLiteral_escaped, ih]
    rw [not_or] at hspecial
    by_cases hdollar : c = '$'
    case neg =>
      rw [escaped_of_ne hspecial.1 hspecial.2 hdollar, List.cons_append,
        readLiteral_plain hspecial.2 hspecial.1 hc.symm (fun h => absurd h hdollar), ih]
    subst hdollar
    by_cases hpair : cs.head? = some '\x7b'
    case pos =>
      -- the backslash goes before the dollar sign, and the brace stands alone
      obtain ⟨more, rfl⟩ := List.head?_eq_some_iff.1 hpair
      have hbrace : escaped ('\x7b' :: more) = '\x7b' :: escaped more :=
        escaped_of_ne (by decide) (by decide) (by decide) more
      rw [escaped_pair, ← hbrace, List.cons_append, List.cons_append, readLiteral_escaped, ih]
    case neg =>
      have hhead : (escaped cs ++ rest).head? ≠ some '\x7b' := by
        rw [List.head?_append, Ne, Option.or_eq_some_iff, not_or]
        exact ⟨head?_escaped hpair, fun h => hrest h.2⟩
      rw [escaped_dollar hpair, List.cons_append,
        readLiteral_plain (by decide) (by decide) (by decide) (fun _ => hhead), ih]

/-! ## Rendered paths -/

/-- A part with the code that stands for it in the hole of a placeholder. -/
def filled (f : String → Code) : PathPart → PathPart
  | .literal text => .literal text
  | .placeholder name => .placeholder (f name).render

/-- What stands for the parts between the backticks. -/
def inside (f : String → Code) : PathTemplate → List Char
  | [] => []
  | .literal text :: t => escaped text.toList ++ inside f t
  | .placeholder name :: t => '$' :: '\x7b' :: ((f name).render.toList ++ '\x7d' :: inside f t)

theorem toList_render (t : PathTemplate) (f : String → Code) :
    (t.render f).render.toList = '\x60' :: (inside f t ++ ['\x60']) := by
  have hparts : (String.join ((t.map (Reader.pathPart f)).map Code.render)).toList = inside f t := by
    induction t with
    | nil => rfl
    | cons part t ih =>
      rw [List.map_cons, List.map_cons, String.join_cons, String.toList_append, ih]
      cases part with
      | literal text =>
        rw [Reader.pathPart, Code.render_site, escape, String.toList_ofList]
        rfl
      | placeholder name => simp [Reader.pathPart, inside]
  have hrender : t.render f = Code.cat ["\x60", Code.cat (t.map (Reader.pathPart f)), "\x60"] := by
    unfold render
    congr 1
  rw [hrender, Code.render_cat, ← hparts, ← Code.render_cat]
  simp

theorem head?_inside (f : String → Code) {t : PathTemplate} (h : ∀ part ∈ t.head?, ¬IsLiteral part)
    (rest : List Char) : (inside f t ++ '\x60' :: rest).head? ≠ some '\x7b' := by
  match t with
  | [] => simp [inside]
  | .literal text :: t => exact absurd trivial (h (.literal text) rfl)
  | .placeholder name :: t => simp [inside]

/-- Reading comes from the first of the parts to the last. -/
theorem readLiteral_inside (f : String → Code) (rest : List Char) :
    ∀ (t : PathTemplate) (text : List Char), .literal "" ∉ t →
      t.IsChain (fun a b => ¬(IsLiteral a ∧ IsLiteral b)) →
      (∀ part ∈ t.head?, IsLiteral part → text = []) → '\r' ∉ t.chars →
      readLiteral (t.placeholders.map fun name => (f name).render) text
          (inside f t ++ '\x60' :: rest) =
        some (literal text ++ t.map (filled f), rest)
  | [], text, _, _, _, _ => by
    rw [List.map_nil, List.append_nil]
    exact readLiteral_close
  | .literal text' :: t, text, hnonempty, hapart, hhead, hreturn => by
    obtain ⟨htext', hnonempty⟩ := not_or.1 (List.mem_cons.not.1 hnonempty)
    obtain ⟨hreturn', hreturn⟩ := not_or.1 (List.mem_append.not.1 hreturn)
    obtain ⟨hbeside, hapart⟩ := List.isChain_cons.1 hapart
    have hnext : ∀ part ∈ t.head?, ¬IsLiteral part := fun part hpart hliteral =>
      hbeside part hpart ⟨trivial, hliteral⟩
    have ih := readLiteral_inside f rest t text'.toList hnonempty hapart
      (fun part hpart hliteral => absurd hliteral (hnext part hpart)) hreturn
    have hself : literal text'.toList = [.literal text'] := by
      have hempty : text'.toList.isEmpty = false := by
        rw [List.isEmpty_eq_false_iff, Ne, String.toList_eq_nil_iff]
        rintro rfl
        exact htext' rfl
      rw [literal, hempty, String.ofList_toList]
      rfl
    have hescaped := readLiteral_append_escaped ((placeholders t).map fun name => (f name).render)
      (head?_inside f hnext rest) text'.toList [] hreturn'
    -- No two literals stand beside each other, so nothing has been gathered before this one.
    rw [hhead _ rfl trivial, inside, List.append_assoc]
    refine (hescaped.trans ih).trans ?_
    rw [hself]
    rfl
  | .placeholder name :: t, text, hnonempty, hapart, _, hreturn => by
    have hcontents : (placeholders (.placeholder name :: t)).map (fun name => (f name).render) =
        (f name).render :: (placeholders t).map fun name => (f name).render := rfl
    have ih := readLiteral_inside f rest t [] (fun h => hnonempty (List.mem_cons_of_mem _ h))
      (List.isChain_cons.1 hapart).2 (fun _ _ _ => rfl)
      (fun h => hreturn (List.mem_append_right _ h))
    have hinside : inside f (.placeholder name :: t) ++ '\x60' :: rest =
        '$' :: '\x7b' :: ((f name).render.toList ++ '\x7d' :: (inside f t ++ '\x60' :: rest)) := by
      simp [inside]
    rw [hcontents, hinside, readLiteral_hole, ih]
    rfl

theorem readTemplate_render {path : String} (hreturn : '\r' ∉ path.toList) (f : String → Code) :
    readTemplate ((ofString path).placeholders.map fun name => (f name).render)
        ((ofString path).render f).render =
      some ((ofString path).map (filled f), []) := by
  obtain ⟨hchars, hnonempty, hapart, -, -⟩ := isPartition_ofChars path.toList
  rw [← hchars] at hreturn
  have hread := readLiteral_inside f [] (ofString path) [] hnonempty hapart (fun _ _ _ => rfl) hreturn
  unfold readTemplate
  rw [toList_render]
  exact hread

/-- A path is taken apart at the braces that are closed and nowhere else, and nothing of it gets lost. Read
by the rules of template literals, the template literal for the path has the same parts in the same order,
whatever its holes hold, and it ends with its last character. -/
theorem ofString_parts (path : String) :
    IsPartition path.toList (ofString path) ∧
    ('\r' ∉ path.toList → ∀ f : String → Code,
      readTemplate ((ofString path).placeholders.map fun name => (f name).render)
          ((ofString path).render f).render =
        some ((ofString path).map (filled f), [])) :=
  ⟨isPartition_ofChars path.toList, readTemplate_render⟩

/-- A path with a dollar sign before a placeholder, and another one before a brace that is not closed. -/
def pricesPath : String := "/\x60$\x7bid\x7d\x7bat\x7d\\$\x7b"

def pricesParts : PathTemplate :=
  [.literal "/\x60$", .placeholder "id", .placeholder "at", .literal "\\$\x7b"]

/-- The client writes the first sign as it is and the second one with a backslash. -/
theorem ofString_parts_prices : '\r' ∉ pricesPath.toList ∧ ofString pricesPath = pricesParts ∧
    readTemplate ["id", "at"] "\x60/\\\x60$$\x7bid\x7d$\x7bat\x7d\\\\\\$\x7b\x60" =
      some (pricesParts, []) := by
  have hreturn : '\r' ∉ pricesPath.toList := by decide +kernel
  have hparts : ofString pricesPath = pricesParts := by with_unfolding_all rfl
  have hread := (ofString_parts pricesPath).2 hreturn Code.site
  have hcode : (pricesParts.render Code.site).render =
      "\x60/\\\x60$$\x7bid\x7d$\x7bat\x7d\\\\\\$\x7b\x60" := by decide +kernel
  rw [hparts, hcode] at hread
  exact ⟨hreturn, hparts, by simpa [pricesParts, placeholders, filled] using hread⟩

end PathTemplate

end OpenApi

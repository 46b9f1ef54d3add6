import OpenApi.Proofs.Code.OneLine
import OpenApi.Proofs.Code.Templates

/-!
What code declares. A declaration is a line that begins at top level with one of few words; its name is
the identifier after them. What the lines of a piece of code have to say can be told from its parts
(`Reader.Lists`): those that are on one line, the blocks, which say what their first lines say, and the
comments, which say nothing.
-/

namespace OpenApi

namespace Lex

/-- A declaration, as the line shows it with which it begins: the first words, the name, and what the
name stands for if the line says that to its end. -/
structure Declaration where
  kind : String
  name : String
  value : Option (List Glyph)
  deriving DecidableEq, Repr

/-- The words with which declarations begin. -/
def declarators : List String :=
  ["export type ", "export function ", "export async function ", "export const ", "const "]

/-- The identifier at the beginning. -/
def leadingWord : List Glyph → List Char
  | .char c :: rest => if Text.isWordPart c then c :: leadingWord rest else []
  | _ => []

/-- What follows the name if it is given a meaning. -/
def declaredValue? (rest : List Glyph) : Option (List Glyph) :=
  (rest.dropPrefix? (" = ".toList.map .char)).bind (·.dropSuffix? (";".toList.map .char))

/-- What a line declares. -/
def declaration? (line : List Glyph) : Option Declaration :=
  declarators.findSome? fun kind =>
    (line.dropPrefix? (kind.toList.map .char)).map fun rest =>
      let name := leadingWord rest
      ⟨kind, String.ofList name, declaredValue? (rest.drop name.length)⟩

/-- The name that a line declares. -/
def declaredName? (line : List Glyph) : Option String := (declaration? line).map (·.name)

@[simp] theorem leadingWord_blank (rest : List Glyph) : leadingWord (Glyph.char ' ' :: rest) = [] :=
  if_neg (by decide)

theorem leadingWord_append {name : List Char} (hname : name.all Text.isWordPart = true)
    (rest : List Glyph) : leadingWord (name.map .char ++ rest) = name ++ leadingWord rest := by
  induction name with
  | nil => rfl
  | cons c name ih =>
    obtain ⟨hc, hname⟩ := Bool.and_eq_true_iff.1 (List.all_cons.symm.trans hname)
    rw [List.map_cons, List.cons_append, leadingWord, if_pos hc, ih hname]
    rfl

/-- No identifier begins where none of the texts begins with one. -/
theorem leadingWord_append_eq_nil {gs rest : List Glyph} (h : leadingWord gs = [])
    (hrest : leadingWord rest = []) : leadingWord (gs ++ rest) = [] := by
  cases gs with
  | nil => exact hrest
  | cons g gs =>
    cases g with
    | hidden => rfl
    | char c =>
      have hc : ¬Text.isWordPart c = true := fun hc => by
        rw [leadingWord, if_pos hc] at h
        cases h
      exact if_neg hc

/-- No declaration begins like one of another kind. -/
theorem declaration?_of_kind {kind : String} (hkind : kind ∈ declarators) (rest : List Glyph) :
    declaration? (kind.toList.map .char ++ rest) =
      some ⟨kind, String.ofList (leadingWord rest),
        declaredValue? (rest.drop (leadingWord rest).length)⟩ := by
  simp only [declarators, List.mem_cons, List.not_mem_nil, or_false] at hkind
  rcases hkind with rfl | rfl | rfl | rfl | rfl <;> simp [declaration?, declarators, List.dropPrefix?]

theorem declaration?_line {kind : String} (hkind : kind ∈ declarators) {name : String}
    (hname : name.toList.all Text.isWordPart = true) {rest : List Glyph}
    (hrest : leadingWord rest = []) :
    declaration? (kind.toList.map .char ++ (name.toList.map .char ++ rest)) =
      some ⟨kind, name, declaredValue? rest⟩ := by
  have hword : leadingWord (name.toList.map .char ++ rest) = name.toList := by
    rw [leadingWord_append hname, hrest, List.append_nil]
  have hdrop : (name.toList.map Glyph.char ++ rest).drop name.toList.length = rest :=
    List.drop_left' (List.length_map _)
  rw [declaration?_of_kind hkind, hword, hdrop, String.ofList_toList]

theorem declaredValue?_some (value : List Glyph) :
    declaredValue? (" = ".toList.map .char ++ (value ++ ";".toList.map .char)) = some value := by
  rw [declaredValue?, List.dropPrefix?_append_of_beq _ BEq.rfl]
  exact List.dropSuffix?_eq_some_iff.2 ⟨_, rfl, BEq.rfl⟩

end Lex

namespace Reader

variable {r : Reader} {α : Type} {f : List Glyph → Option α} {a b code : Code} {found found' : List α}

/-- Code that begins and ends at top level, and what is found in the lines of it that begin there. -/
def Lists (r : Reader) (f : List Glyph → Option α) (code : Code) (found : List α) : Prop :=
  ∃ lines, Lex.TopLevel r.toRules (r.glyphs code) lines ∧ lines.filterMap f = found

namespace Lists

theorem congr (h : r.Lists f a found) (heq : r.glyphs b = r.glyphs a) : r.Lists f b found := by
  rwa [Lists, heq]

theorem congr_found (h : r.Lists f code found) (heq : found = found') : r.Lists f code found' := heq ▸ h

theorem empty : r.Lists f Code.empty [] := ⟨[], .nil, rfl⟩

theorem of_isEmpty (h : code.isEmpty = true) : r.Lists f code [] := by
  obtain ⟨fragments⟩ := code
  cases List.isEmpty_iff.1 h
  exact empty

theorem unique (h : r.Lists f code found) (h' : r.Lists f code found') : found = found' := by
  obtain ⟨lines, hlines, rfl⟩ := h
  obtain ⟨lines', hlines', rfl⟩ := h'
  rw [← hlines.eq, ← hlines'.eq]

theorem append (ha : r.Lists f a found) (hb : r.Lists f b found') :
    r.Lists f (a ++ b) (found ++ found') := by
  obtain ⟨lines, hlines, rfl⟩ := ha
  obtain ⟨lines', hlines', rfl⟩ := hb
  refine ⟨lines ++ lines', ?_, List.filterMap_append⟩
  rw [glyphs_append]
  exact hlines.append hlines'

/-- The names of what is declared. -/
theorem names {found : List Lex.Declaration} (h : r.Lists Lex.declaration? code found) :
    r.Lists Lex.declaredName? code (found.map (·.name)) := by
  obtain ⟨lines, hlines, rfl⟩ := h
  exact ⟨lines, hlines, (List.map_filterMap ..).symm⟩

/-- What is found in pieces of code one after the other. -/
theorem cat {β : Type} {parts : List Code} {xs : List β} {g : β → List α}
    (h : List.Forall₂ (fun x part => r.Lists f part (g x)) xs parts) :
    r.Lists f (Code.cat parts) (xs.flatMap g) := by
  induction h with
  | nil => exact empty
  | cons h _ ih => exact (h.append ih).congr (by simp)

theorem hidden {origin : Origin} (hshows : r.shows origin = false) (hhide : r.mayHide origin = true)
    (text : String) : r.Lists f (Code.tagged text origin) [] := by
  refine ⟨[], .hidden hhide ?_, rfl⟩
  rw [glyphs_tagged]
  exact List.forall_mem_map.2 fun c _ => if_neg (by simp [hshows])

theorem line (hsound : r.Sound code) (hline : r.OneLine code)
    (hstart : (r.glyphs code).head?.all Glyph.isChar = true) :
    r.Lists f (code ++ Code.site "\n") (f (r.glyphs code)).toList := by
  refine ⟨[r.glyphs code], ?_, rfl⟩
  rw [glyphs_append, glyphs_site]
  exact .single hstart hline hsound

/-- An empty line. -/
theorem blank (hf : f [] = none) : r.Lists f (Code.site "\n") [] := by
  have h : r.Lists f (Code.empty ++ Code.site "\n") (f []).toList :=
    line ⟨{}, rfl, rfl, .inl rfl⟩ (List.not_mem_nil) rfl
  rw [hf] at h
  exact h

/-- A block has as much to say as its first line. -/
theorem block {inner : Code} {closing : List Char} (hsound : r.Sound code) (hline : r.OneLine code)
    (hstart : (r.glyphs code).head?.all Glyph.isChar = true) (hinner : r.Complete inner)
    (hclosing : '\n' ∉ closing ∧ Lex.Piece.closeComplete [.text (closing ++ ['\n'])] = true) :
    r.Lists f (Code.cat [code, " \x7b\n", inner, "\x7d", String.ofList closing, "\n"])
      (f (r.glyphs (code ++ " \x7b"))).toList := by
  have hopen : Lex.readAll r.toRules {} (r.glyphs (code ++ " \x7b") ++ [Glyph.char '\n']) =
      some (.code [.brace]) := by
    have hfits : r.Fits _ [code, " \x7b\n"] := .sound hsound (.text .nil)
    have hreads : Lex.readAll r.toRules {} _ = some (.code [.brace]) := hfits.reads (by decide)
    simpa using hreads
  have hlast : Lex.readAll r.toRules {} (closing.map .char ++ [Glyph.char '\n']) = some {} := by
    have hclose : r.Complete _ := complete_given hclosing.2
    simpa [Complete, Lex.Complete] using hclose
  refine ⟨[r.glyphs (code ++ " \x7b")], ?_, rfl⟩
  have hglyphs : r.glyphs (Code.cat [code, " \x7b\n", inner, "\x7d", String.ofList closing, "\n"]) =
      r.glyphs (code ++ " \x7b") ++ Glyph.char '\n' :: (r.glyphs inner ++ Glyph.char '\x7d' ::
        (closing.map .char ++ [Glyph.char '\n'])) := by simp
  rw [hglyphs]
  refine .block ?_ (hline.append (oneLine_site (by decide))) hopen hinner
    (by simpa using hclosing.1) hlast
  rw [glyphs_append]
  cases hcode : r.glyphs code with
  | nil => simp [Glyph.isChar]
  | cons g gs => simpa [hcode] using hstart

/-- Nothing is found in a comment. -/
theorem docComment (hf : f ("/**".toList.map .char) = none) (o : Operation) :
    r.Lists f (Code.site o.docComment) [] := by
  obtain heq | ⟨lines, heq, hlines⟩ := Lex.docComment_inside o
  · rw [heq]
    exact empty.congr (by simp)
  · have hglyphs : r.glyphs (Code.site o.docComment) =
        "/**".toList.map .char ++ Glyph.char '\n' :: (lines.toList.map .char ++
          " *".toList.map .char ++ Glyph.char '/' :: ([] ++ [Glyph.char '\n'])) := by
      simp [heq]
    have hcomment : (Lex.State.inside .comment []).InComment [] := .inl rfl
    have hstar : (Lex.State.inside .star []).InComment [] := .inr rfl
    refine ⟨["/**".toList.map .char], ?_, by rw [List.filterMap_cons_none hf]; rfl⟩
    rw [hglyphs]
    refine .enclosed rfl (by decide) rfl ?_ (fun _ => rfl) (List.not_mem_nil) rfl
    rw [List.append_assoc]
    exact (hlines r.toRules).append (.cons hcomment.not_isTop rfl
      (.cons hcomment.not_isTop rfl (.cons hstar.not_isTop rfl .nil)))

/-- What is found in pieces of code with empty lines between them. -/
theorem join (hf : f [] = none) {β : Type} {parts : List Code} {xs : List β} {g : β → List α}
    (h : List.Forall₂ (fun x part => r.Lists f part (g x)) xs parts) :
    r.Lists f (Code.join "\n" parts) (xs.flatMap g) := by
  cases h with
  | nil => exact empty
  | @cons x first xs rest hfirst hrest =>
    rw [List.flatMap_cons]
    unfold Code.join
    generalize g x = found at hfirst
    induction hrest generalizing first found with
    | nil => exact hfirst.congr_found (List.append_nil _).symm
    | @cons x part xs rest hpart _ ih =>
      have hnext := ih _ ((hfirst.append (blank hf)).append hpart)
      exact hnext.congr_found (by simp)

/-! ## Declarations -/

/-- A file that declares nothing says that it is a module. -/
theorem exports : r.Lists Lex.declaration? (Code.site "export \x7b\x7d;\n") [] := by
  have hsound : r.Sound "export \x7b\x7d;" := sound_given (by decide)
  have h : r.Lists Lex.declaration? _ _ :=
    line hsound (oneLine_site (by decide)) (by simp [Glyph.isChar])
  have hnone : Lex.declaration? ("export \x7b\x7d;".toList.map .char) = none := by decide
  rw [glyphs_site, hnone] at h
  exact h.congr (by simp)

section

variable {kind name : String} {rest : Code} (hkind : kind ∈ Lex.declarators)
  (hname : name.toList.all Text.isWordPart = true) (hrest : Lex.leadingWord (r.glyphs rest) = [])
  (hsound : r.Sound (Code.cat [kind, name, rest])) (hline : r.OneLine rest)

include hkind hname

omit hname in
theorem declaration_start (more : List Glyph) :
    (kind.toList.map Glyph.char ++ more).head?.all Glyph.isChar = true := by
  simp only [Lex.declarators, List.mem_cons, List.not_mem_nil, or_false] at hkind
  rcases hkind with rfl | rfl | rfl | rfl | rfl <;> simp [Glyph.isChar]

include hline in
theorem declaration_oneLine : r.OneLine (Code.cat [kind, name, rest]) := by
  have hnewline : ∀ kind ∈ Lex.declarators, '\n' ∉ kind.toList := by decide
  refine oneLine_cat ?_
  simp only [List.forall_mem_cons]
  exact ⟨oneLine_site (hnewline kind hkind), oneLine_name hname, hline, List.forall_mem_nil _⟩

include hrest hsound hline

/-- A declaration on a line of its own. -/
theorem declaration : r.Lists Lex.declaration? (Code.cat [kind, name, rest, "\n"])
    [⟨kind, name, Lex.declaredValue? (r.glyphs rest)⟩] := by
  have hglyphs : r.glyphs (Code.cat [kind, name, rest]) =
      kind.toList.map .char ++ (name.toList.map .char ++ r.glyphs rest) := by simp
  have h : r.Lists Lex.declaration? _ _ := line hsound (declaration_oneLine hkind hname hline)
    (hglyphs ▸ declaration_start hkind _)
  rw [hglyphs, Lex.declaration?_line hkind hname hrest] at h
  exact h.congr (by simp)

/-- A declaration with a block. -/
theorem declaredBlock {inner : Code} (closing : List Char) (hinner : r.Complete inner)
    (hclosing : '\n' ∉ closing ∧ Lex.Piece.closeComplete [.text (closing ++ ['\n'])] = true) :
    r.Lists Lex.declaration?
      (Code.cat [kind, name, rest, " \x7b\n", inner, "\x7d", String.ofList closing, "\n"])
      [⟨kind, name, Lex.declaredValue? (r.glyphs (rest ++ " \x7b"))⟩] := by
  have hglyphs : r.glyphs (Code.cat [kind, name, rest]) =
      kind.toList.map .char ++ (name.toList.map .char ++ r.glyphs rest) := by simp
  have hhead : r.glyphs (Code.cat [kind, name, rest] ++ " \x7b") =
      kind.toList.map .char ++ (name.toList.map .char ++ r.glyphs (rest ++ " \x7b")) := by simp
  have hword : Lex.leadingWord (r.glyphs (rest ++ " \x7b")) = [] := by
    rw [glyphs_append, glyphs_site]
    exact Lex.leadingWord_append_eq_nil hrest (by decide)
  have h : r.Lists Lex.declaration? _ _ := block hsound (declaration_oneLine hkind hname hline)
    (hglyphs ▸ declaration_start hkind _) hinner hclosing
  rw [hhead, Lex.declaration?_line hkind hname hword] at h
  exact h.congr (by simp)

omit hrest in
/-- A function: its parameters follow its name. -/
theorem function (hparameters : (r.glyphs rest).head? = some (Glyph.char '(')) {inner : Code}
    (hinner : r.Complete inner) :
    r.Lists Lex.declaration? (Code.cat [kind, name, rest, " \x7b\n", inner, "\x7d\n"])
      [⟨kind, name, none⟩] := by
  obtain ⟨more, hmore⟩ := List.head?_eq_some_iff.1 hparameters
  have hrest : Lex.leadingWord (r.glyphs rest) = [] := by
    rw [hmore]
    rfl
  have hvalue : Lex.declaredValue? (r.glyphs (rest ++ " \x7b")) = none := by
    rw [glyphs_append, hmore]
    simp [Lex.declaredValue?, List.dropPrefix?]
  have h := declaredBlock hkind hname hrest hsound hline [] hinner (by decide)
  rw [hvalue] at h
  exact h.congr (by simp)

end

end Lists

end Reader

end OpenApi

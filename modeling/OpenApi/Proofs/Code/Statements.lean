import OpenApi.Proofs.Code.Expressions

/-!
Statements whose lines and heads are sound. Between the braces that a block opens and closes there may be
any number of clauses; the text of a statement closes them all and leaves nothing behind, however deep it
is indented.
-/

namespace OpenApi

namespace Reader

variable {r : Reader} {code condition : Code} {body : List Statement}

/-- All lines of the statement and all heads of its clauses are sound. -/
inductive StatementSound (r : Reader) : Statement → Prop
  | line {code : Code} (h : r.Sound code) : StatementSound r (.line code)
  | block {head : Code} {body : List Statement} {others : List (Code × List Statement)}
    (hhead : r.Sound head) (hbody : ∀ s ∈ body, StatementSound r s)
    (hheads : ∀ clause ∈ others, r.Sound clause.1)
    (hbodies : ∀ clause ∈ others, ∀ s ∈ clause.2, StatementSound r s) :
    StatementSound r (.block head body others)

/-! ## The text of statements -/

theorem Fits.reads {ps : List Lex.Piece} {parts : List Code} (h : r.Fits ps parts) {s s' : Lex.State}
    (hfront : Lex.Front.pieces true (.here s) ps = some (.here s')) :
    Lex.readAll r.toRules s (r.glyphs (Code.cat parts)) = some s' := by
  obtain ⟨next, hnext, hmeets⟩ := h.lex.reads r.lenient hfront rfl
  obtain rfl : next = s' := hmeets
  rw [glyphs_cat, hnext]

theorem complete_indentation (depth : Nat) :
    r.Complete (Code.site (String.join (List.replicate depth "  "))) := by
  induction depth with
  | zero => rfl
  | succ depth ih =>
    have hfits : r.Fits _ ["  ", Code.site (String.join (List.replicate depth "  "))] :=
      .text (.complete ih .nil)
    exact (hfits.catComplete (by decide)).congr (by simp [List.replicate_succ, String.join_cons])

theorem complete_indented (depth : Nat) (h : r.Sound code) :
    r.Complete (Statement.indented depth code) :=
  (Fits.complete (complete_indentation depth) (.sound h (.text .nil))).catComplete (by decide)

/-- The state inside of a block. -/
def inBlock : Lex.State := .code [.brace]

theorem reads_open (depth : Nat) (h : r.Sound code) :
    Lex.readAll r.toRules {} (r.glyphs (Statement.indented depth (code ++ " \x7b"))) =
      some inBlock := by
  have hfits : r.Fits _ [String.join (List.replicate depth "  "), code, " \x7b", "\n"] :=
    .complete (complete_indentation depth) (.sound h (.text (.text .nil)))
  have hreads : Lex.readAll r.toRules {} _ = some inBlock := hfits.reads (by decide)
  simpa [Statement.indented] using hreads

theorem reads_reopen (depth : Nat) (h : r.Sound code) :
    Lex.readAll r.toRules inBlock
        (r.glyphs (Statement.indented depth (Code.cat ["\x7d ", code, " \x7b"]))) =
      some inBlock := by
  have hfits : r.Fits _ [String.join (List.replicate depth "  "), "\x7d ", code, " \x7b", "\n"] :=
    .complete (complete_indentation depth) (.text (.sound h (.text (.text .nil))))
  have hreads : Lex.readAll r.toRules inBlock _ = some inBlock := hfits.reads (by decide)
  simpa [Statement.indented] using hreads

theorem reads_close (depth : Nat) :
    Lex.readAll r.toRules inBlock (r.glyphs (Statement.indented depth "\x7d")) = some {} := by
  have hfits : r.Fits _ [String.join (List.replicate depth "  "), "\x7d", "\n"] :=
    .complete (complete_indentation depth) (.text (.text .nil))
  exact hfits.reads (by decide)

mutual

theorem complete_code (depth : Nat) :
    ∀ statement, r.StatementSound statement → r.Complete (statement.code depth)
  | .line code, .line h => by
    rw [Statement.code]
    exact complete_indented depth h
  | .block head body others, .block hhead hbody hheads hbodies => by
    rw [Statement.code, Complete, glyphs_append, glyphs_append, List.append_assoc]
    refine (Lex.readAll_append_of_eq_some (reads_open depth hhead)).trans ?_
    have hinside := (complete_codeOfAll (depth + 1) body hbody).reads [.brace]
    exact (Lex.readAll_append_of_eq_some hinside).trans (closes_others depth others hheads hbodies)

theorem complete_codeOfAll (depth : Nat) :
    ∀ statements, (∀ s ∈ statements, r.StatementSound s) →
      r.Complete (Statement.codeOfAll depth statements)
  | [], _ => by
    rw [Statement.codeOfAll]
    rfl
  | statement :: rest, h => by
    obtain ⟨hstatement, hrest⟩ := List.forall_mem_cons.1 h
    rw [Statement.codeOfAll, Complete, glyphs_append]
    refine (Lex.readAll_append_of_eq_some (complete_code depth statement hstatement)).trans ?_
    exact complete_codeOfAll depth rest hrest

/-- The clauses of a block after the first one close the brace that the one before them opens. -/
theorem closes_others (depth : Nat) :
    ∀ others : List (Code × List Statement), (∀ clause ∈ others, r.Sound clause.1) →
      (∀ clause ∈ others, ∀ s ∈ clause.2, r.StatementSound s) →
      Lex.readAll r.toRules inBlock (r.glyphs (Statement.codeOfOthers depth others)) = some {}
  | [], _, _ => by
    rw [Statement.codeOfOthers]
    exact reads_close depth
  | (head, body) :: rest, hheads, hbodies => by
    obtain ⟨hhead, hheads⟩ := List.forall_mem_cons.1 hheads
    obtain ⟨hbody, hbodies⟩ := List.forall_mem_cons.1 hbodies
    rw [Statement.codeOfOthers, glyphs_append, glyphs_append, List.append_assoc]
    refine (Lex.readAll_append_of_eq_some (reads_reopen depth hhead)).trans ?_
    have hinside := (complete_codeOfAll (depth + 1) body hbody).reads [.brace]
    exact (Lex.readAll_append_of_eq_some hinside).trans (closes_others depth rest hheads hbodies)

end

/-! ## Kinds of statements -/

theorem StatementSound.only (hhead : r.Sound code) (hbody : ∀ s ∈ body, r.StatementSound s) :
    r.StatementSound (Statement.only code body) :=
  .block hhead hbody (List.forall_mem_nil _) (List.forall_mem_nil _)

theorem sound_if (h : r.Sound condition) : r.Sound ("if " ++ condition.parens) :=
  (Fits.text (.value (.parens h) .nil)).append (by decide)

theorem StatementSound.conditional (hcondition : r.Sound condition)
    (hbody : ∀ s ∈ body, r.StatementSound s) :
    r.StatementSound (Statement.conditional condition body) :=
  .only (sound_if hcondition) hbody

theorem StatementSound.constant {name : String} {value : Code} (hname : r.Value name)
    (h : r.Sound value) : r.StatementSound (.constant name value) :=
  .line ((Fits.text (.value hname (.text (.sound h (.text .nil))))).cat (by decide))

theorem StatementSound.typedConstant {name type : String} {value : Code} (hname : r.Value name)
    (htype : r.Sound type) (h : r.Sound value) : r.StatementSound (.typedConstant name type value) :=
  .line ((Fits.text (.value hname (.text (.sound htype (.text (.sound h (.text .nil))))))).cat
    (by decide))

theorem sound_firstOf {clauses : List (Code × List Statement)} {otherwise : List Statement}
    (hconditions : ∀ clause ∈ clauses, r.Sound clause.1)
    (hbodies : ∀ clause ∈ clauses, ∀ s ∈ clause.2, r.StatementSound s)
    (hotherwise : ∀ s ∈ otherwise, r.StatementSound s) :
    ∀ s ∈ Statement.firstOf clauses otherwise, r.StatementSound s := by
  cases clauses with
  | nil => exact hotherwise
  | cons clause rest =>
    obtain ⟨hcondition, hconditions⟩ := List.forall_mem_cons.1 hconditions
    obtain ⟨hbody, hbodies⟩ := List.forall_mem_cons.1 hbodies
    refine List.forall_mem_singleton.2 (.block (sound_if hcondition) hbody ?_ ?_)
    · refine List.forall_mem_append.2 ⟨List.forall_mem_map.2 fun clause hclause => ?_, ?_⟩
      · have hfits : r.Fits _ ["else if ", clause.1.parens] :=
          .text (.value (.parens (hconditions clause hclause)) .nil)
        exact hfits.append (by decide)
      · exact List.forall_mem_singleton.2 (sound_given (by decide))
    · exact List.forall_mem_append.2
        ⟨List.forall_mem_map.2 hbodies, List.forall_mem_singleton.2 hotherwise⟩

end Reader

end OpenApi

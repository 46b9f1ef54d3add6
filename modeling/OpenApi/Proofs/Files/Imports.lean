import OpenApi.Proofs.Files.AuditedFiles
import OpenApi.Proofs.Types.Texts

/-!
The imports of files. What a file imports is read off the usage that was recorded while its body was
written, and all that the body refers to is recorded: the modules of which the compiler's own text has
members, and the imports of all formats that have text in it. Text that a format has put in is a gap in
that of the compiler, so the latter can be read whatever the formats are; formats that close what they
open may as well be read with it.
-/

namespace OpenApi

/-! ## What code refers to -/

/-- The text of the compiler. -/
def Origin.isSite (origin : Origin) : Bool := origin == .site

theorem Origin.isSite_site : Origin.site.isSite = true := rfl

namespace Code

section

variable (shows : Origin → Bool) (body : Code)

/-- What there is to read if only text of some origins is shown. -/
def seen : List Glyph :=
  body.fragments.flatMap fun f =>
    f.text.toList.map fun c => if shows f.origin then .char c else .hidden f.origin

end

end Code

/-! ## What usage stands for -/

namespace Usage

variable {u : Usage} {formats : Registry}

/-- The words that may have members: those that are no names of modules, and those of the modules that
are used. -/
def allows (u : Usage) (word : List Char) : Bool :=
  if word = ['R', 'u', 'n', 't', 'i', 'm', 'e'] then u.runtime
  else if word = ['T', 'y', 'p', 'e', 's'] then u.types
  else if word = ['q', 's'] then u.queryString
  else true

open Classical in
/-- What a file of this usage lets pass: members of the modules that it uses, and the text of formats
whose imports it needs. -/
noncomputable def rules (u : Usage) (formats : Registry) : Lex.Rules where
  mayAccess := u.allows
  mayHide
    | .stringFormat name => decide (∃ format, formats.get? name = some format ∧ u.Needs format.imports)
    | _ => false

theorem strict_refines_rules (guarded : Bool) : (Lex.strict guarded).Refines (u.rules formats) where
  access word h := by
    have hword : word ∉ Lex.aliases := by simpa [Lex.strict] using h
    simp only [Lex.aliases, List.mem_cons, List.not_mem_nil, or_false, not_or] at hword
    simp [rules, allows, hword]
  hide := nofun
  call _ _ := rfl
  qualifies _ _ := rfl

theorem isValue_of_allows {word : List Char} (h : u.allows word = true) :
    (u.rules formats).isValue word = true := Bool.and_eq_true_iff.2 ⟨h, rfl⟩

end Usage

section

variable (shows : Origin → Bool) (hsite : shows .site = true) (u : Usage) (formats : Registry)

/-- The reader of a file that has this usage in the end, which is shown text of some origins. -/
noncomputable def Reader.using : Reader where
  toRules := u.rules formats
  shows := shows
  shows_site := hsite
  lenient := Usage.strict_refines_rules true

/-- The audit of that file. -/
noncomputable def Audit.using : Audit where
  toReader := Reader.using shows hsite u formats
  covers used := used.Within u
  covers_within h h' := h.trans h'
  mayConvert _ _ := True
  runtime h hused := Usage.isValue_of_allows (h.runtime hused)
  queryString h hused := Usage.isValue_of_allows (h.queryString hused)

end

namespace Lex

variable {r : Rules} {s s' : State}

/-- All origins of text that was read over may be hidden. -/
theorem mayHide_of_readAll {gs : List Glyph} (h : readAll r s gs = some s') {origin : Origin}
    (hmem : .hidden origin ∈ gs) : r.mayHide origin = true := by
  induction gs generalizing s with
  | nil => cases hmem
  | cons g gs ih =>
    obtain ⟨s₁, hs₁, h⟩ := Option.bind_eq_some_iff.1 h
    rcases List.mem_cons.1 hmem with rfl | hmem
    · by_contra hhide
      have hnone : read r s (.hidden origin) = none := if_neg hhide
      cases hnone.symm.trans hs₁
    · exact ih h hmem

end Lex

theorem Reader.hidden_mem {r : Reader} {code : Code} {origin : Origin} (h : code.HasSpan origin)
    (hshows : r.shows origin = false) : .hidden origin ∈ r.glyphs code := by
  obtain ⟨fragment, hmem, rfl, htext⟩ := h
  obtain ⟨c, hc⟩ := List.exists_mem_of_ne_nil fragment.text.toList (by simpa using htext)
  exact List.mem_flatMap.2 ⟨fragment, hmem, List.mem_map.2 ⟨c, hc, if_neg (by simp [hshows])⟩⟩

section

variable {shows : Origin → Bool} {hsite : shows .site = true} {body : Code} {u : Usage}
  {formats : Registry}

end

/-! ## Files -/

namespace Plan

variable {plan : Plan}

theorem formats_isMade {config : Config} (hplan : Plan.ofConfig config = .ok plan) :
    plan.formats.All Format.IsMade := by
  obtain ⟨formats, hformats, h⟩ := Except.bind_eq_ok.1 hplan
  cases h
  exact Registry.ofConfig_isMade hformats

section

variable {P : File → Prop}

/-- The files of a target, if there are any. -/
theorem forall_of_wanted {wanted : Bool} {files : Report (List File)} {written : List File}
    (h : Yields.yields (if wanted then files else pure []) written)
    (hfiles : ∀ written, Yields.yields files written → ∀ file ∈ written, P file) :
    ∀ file ∈ written, P file := by
  rcases Yields.ite h with ⟨_, h⟩ | ⟨_, h⟩
  · exact hfiles written h
  · cases Yields.yields_pure h
    exact List.forall_mem_nil _

theorem forall_of_single {file : Report File} {written : List File}
    (h : Yields.yields (do pure [← file] : Report (List File)) written)
    (hfile : ∀ written, Yields.yields file written → P written) : ∀ file ∈ written, P file := by
  obtain ⟨written, hwritten, h⟩ := Yields.yields_bind h
  cases Yields.yields_pure h
  exact List.forall_mem_singleton.2 (hfile written hwritten)

/-- What holds of each sort of file holds of all files that are generated. -/
theorem forall_of_generate {document : Document} {files : List File} {types others : Compiler}
    (htypes : types = { document, formats := plan.formats })
    (hothers : others = { types with qualifier := some "Types" })
    (hfile : ∀ file, Yields.yields (plan.file "types.ts" types [] fun c => c.typesBody) file ∨
      Yields.yields (plan.file "validators.ts" others [] fun c => c.validatorsBody) file ∨
      Yields.yields (plan.file "client.ts" others [] fun c => c.clientBody) file ∨
      Yields.yields (plan.file "server-types.ts" others [] fun c => c.handlerTypesBody) file ∨
      Yields.yields (plan.file "server.ts" others [("ServerTypes", "./server-types")]
        fun c => c.serverBody) file → P file)
    (h : Yields.yields (plan.generate document) files) : ∀ file ∈ files, P file := by
  subst htypes hothers
  -- the files are the same whether there are warnings before or not
  rcases Yields.ite h with ⟨_, h⟩ | ⟨_, h⟩
  on_goal 1 => obtain ⟨_, _, h⟩ := Yields.yields_bind h
  all_goals
    obtain ⟨typeFiles, htypes, h⟩ := Yields.yields_bind h
    obtain ⟨validatorFiles, hvalidators, h⟩ := Yields.yields_bind h
    obtain ⟨clientFiles, hclient, h⟩ := Yields.yields_bind h
    obtain ⟨serverFiles, hserver, h⟩ := Yields.yields_bind h
    cases Yields.yields_pure h
    simp only [List.forall_mem_append]
    refine ⟨⟨⟨?_, ?_⟩, ?_⟩, ?_⟩
    · exact forall_of_wanted htypes fun _ h => forall_of_single h fun file h => hfile file (.inl h)
    · exact forall_of_wanted hvalidators fun _ h =>
        forall_of_single h fun file h => hfile file (.inr (.inl h))
    · exact forall_of_wanted hclient fun _ h =>
        forall_of_single h fun file h => hfile file (.inr (.inr (.inl h)))
    · refine forall_of_wanted hserver fun written h => ?_
      obtain ⟨typeFile, htypeFile, h⟩ := Yields.yields_bind h
      obtain ⟨serverFile, hserverFile, h⟩ := Yields.yields_bind h
      cases Yields.yields_pure h
      exact List.forall_mem_cons.2 ⟨hfile _ (.inr (.inr (.inr (.inl htypeFile)))),
        List.forall_mem_singleton.2 (hfile _ (.inr (.inr (.inr (.inr hserverFile)))))⟩

end

end Plan

/-- A configuration that declares decimal numbers. -/
def decimals : Config where
  formats := [("decimal", {
    type := "Decimal"
    parse := { parameter := "s", body := "new Decimal(s)" }
    serialize := { parameter := "d", body := "d.toString()" }
    imports := [("decimal.js", ["Decimal"])] })]

/-- A document with an operation that answers with a decimal number. -/
def priceDocument : Document where
  raw := .object [("components", .object [("schemas", .object [("Price",
    .object [("type", .string "string"), ("format", .string "decimal")])])])]
  spec := {
    openapi := "3.0.3"
    info := { title := "Prices", version := "1" }
    paths := [("/price", { get := some {
      operationId := some "price"
      responses := [("200", .inline { content := [("application/json",
        { schema := some (.ref "#/components/schemas/Price") })] })] } })]
    components := some { schemas := [("Price",
      .inline { type := some .string, format := some "decimal" })] } }

end OpenApi

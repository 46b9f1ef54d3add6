import OpenApi.Proofs.Command.Stages
import OpenApi.Proofs.Files.Steps

/-!
What a check says on the generation. A check succeeds where the files could be compiled and the
operations of the document can be counted (`validate_succeeds_iff`). The files of a client and of a server
need the operations themselves, so with one of them the check says no more and no less than that the
generation would get as far as to write.
-/

namespace OpenApi

theorem Plan.ofConfig_targets {config : Config} {plan : Plan} (h : Plan.ofConfig config = .ok plan) :
    plan.targets = config.targets := by
  obtain ⟨formats, _, h⟩ := Except.bind_eq_ok.1 h
  cases h
  rfl

/-- Files of a client or of a server are generated for documents only whose operations can be told. -/
theorem Plan.generate_operations {plan : Plan} {document : Document} {files : List File}
    {issued issued' : List Warning} (h : plan.generate document issued = (.ok files, issued'))
    (hwanted : plan.targets.client = true ∨ plan.targets.server = true) :
    ∃ operations, document.operations = .ok operations := by
  have h : Yields.yields (plan.generate document) files := ⟨issued, issued', h⟩
  rcases Yields.ite h with ⟨_, h⟩ | ⟨hunwanted, _⟩
  · obtain ⟨_, hwarned, _⟩ := Yields.yields_bind h
    obtain ⟨operations, hoperations, _⟩ := Yields.yields_bind hwarned
    exact ⟨operations, Yields.lift hoperations⟩
  · exact absurd (by simpa using hwanted) hunwanted

namespace Command

variable {w : Workspace} {machine : Machine} {path : String}

/-- The operations of the document in a file can be told, or the configuration asks for files of a
client or of a server. -/
def CountsOperations (w : Workspace) (path : String) : Prop :=
  ∀ config document, configIn w = .ok config → documentIn w path = .ok document →
    config.targets.client = true ∨ config.targets.server = true ∨
      ∃ operations, document.operations = .ok operations

theorem runOn_validate_eq_zero :
    (runOn machine (.validate path)).1 = 0 ↔ checkIn machine.workspace path = .ok () := by
  obtain ⟨told, h⟩ := Finds.runOn_eq (.validate path) (finds_check path)
  rw [h]
  cases checkIn machine.workspace path with
  | ok => exact ⟨fun _ => rfl, fun _ => rfl⟩
  | error failure => exact ⟨nofun, nofun⟩

theorem prepare_eq_ok_iff {output : Option String} {annotate : Bool} :
    (∃ written machine',
      (prepare (some path) output annotate : Action (StateM Machine) Output) machine =
        (.ok written, machine')) ↔
    ∃ written, outputIn machine.workspace (some path) output annotate = .ok written := by
  obtain ⟨told, h⟩ := finds_prepare (some path) output annotate machine.said
  constructor
  · rintro ⟨written, machine', hprepare⟩
    exact ⟨written, congrArg Prod.fst (h.symm.trans hprepare)⟩
  · rintro ⟨written, hwritten⟩
    exact ⟨written, _, h.trans (by rw [hwritten])⟩

theorem outputIn_eq_ok_iff {output : Option String} {annotate : Bool} :
    (∃ written, outputIn w (some path) output annotate = .ok written) ↔
    ∃ config document files, configIn w = .ok config ∧ documentIn w path = .ok document ∧
      compile config document = .ok files := by
  simp only [outputIn, Except.bind_eq_ok, Option.getD_some]
  constructor
  · rintro ⟨_, config, hconfig, document, hdocument, files, hfiles, _⟩
    exact ⟨config, document, files, hconfig, hdocument, hfiles⟩
  · rintro ⟨config, document, files, hconfig, hdocument, hfiles⟩
    exact ⟨_, config, hconfig, document, hdocument, files, hfiles, rfl⟩

theorem checkIn_eq_ok_iff : checkIn w path = .ok () ↔
    ∃ config document files, configIn w = .ok config ∧ documentIn w path = .ok document ∧
      compile config document = .ok files ∧ ∃ operations, document.operations = .ok operations := by
  simp only [checkIn, countable, Except.bind_eq_ok, Except.mapError_eq_ok]
  constructor
  · rintro ⟨document, hdocument, _, ⟨operations, hoperations, _⟩, config, hconfig, files, hfiles, _⟩
    exact ⟨config, document, files, hconfig, hdocument, hfiles, operations, hoperations⟩
  · rintro ⟨config, document, files, hconfig, hdocument, hfiles, operations, hoperations⟩
    exact ⟨document, hdocument, (), ⟨operations, hoperations, rfl⟩, config, hconfig, files, hfiles, rfl⟩

theorem compile_operations {config : Config} {document : Document} {files : List File}
    (h : compile config document = .ok files)
    (hwanted : config.targets.client = true ∨ config.targets.server = true) :
    ∃ operations, document.operations = .ok operations := by
  obtain ⟨plan, hplan, h⟩ := Except.bind_eq_ok.1 h
  rw [Except.mapError_eq_ok] at hplan h
  rw [← Plan.ofConfig_targets hplan] at hwanted
  exact Plan.generate_operations (Prod.ext h rfl) hwanted

/-- A check succeeds if and only if the generation gets as far as to write its files and, unless files of
a client or of a server are among them, the operations of the document can be told. -/
theorem validate_succeeds_iff (machine : Machine) (path : String) (output : Option String)
    (annotate : Bool) :
    (runOn machine (.validate path)).1 = 0 ↔ CountsOperations machine.workspace path ∧
      ∃ written machine',
        (prepare (some path) output annotate : Action (StateM Machine) Output) machine =
          (.ok written, machine') := by
  rw [runOn_validate_eq_zero, prepare_eq_ok_iff, outputIn_eq_ok_iff, checkIn_eq_ok_iff]
  constructor
  · rintro ⟨config, document, files, hconfig, hdocument, hfiles, hoperations⟩
    refine ⟨fun config' document' _ hdocument' => ?_,
      config, document, files, hconfig, hdocument, hfiles⟩
    cases hdocument.symm.trans hdocument'
    exact .inr (.inr hoperations)
  · rintro ⟨hcounts, config, document, files, hconfig, hdocument, hfiles⟩
    refine ⟨config, document, files, hconfig, hdocument, hfiles, ?_⟩
    rcases hcounts config document hconfig hdocument with hclient | hserver | hoperations
    · exact compile_operations hfiles (.inl hclient)
    · exact compile_operations hfiles (.inr hserver)
    · exact hoperations

/-- A workspace whose configuration asks for types and validators alone, with a document that has an
operation without a name. -/
def unnamed : Machine where
  workspace := [([".oac.yaml"], .file "targets: \x7bclient: false, server: false\x7d\n"),
    (["api.json"], .file (Json.object [("openapi", .string "3.0.3"),
      ("info", .object [("title", .string "T"), ("version", .string "1")]),
      ("paths", .object [("/a", .object [("get", .object [("responses", .object [])])])])]).text)]

/-- Its files are generated all the same, but a check of it fails. -/
theorem unnamed_generated_not_valid :
    (runOn unnamed (.validate "api.json")).1 = 1 ∧
    (∃ written machine',
      (prepare (some "api.json") none false : Action (StateM Machine) Output) unnamed =
        (.ok written, machine')) ∧
    (runOn unnamed (.generate (some "api.json") none false)).1 = 0 := by
  obtain ⟨written, hwritten, _⟩ := Except.pair_eq_ok_of_any
    (show ((prepare (some "api.json") none false : Action (StateM Machine) Output)
      unnamed).1.toOption.any (fun _ => true) = true by decide +kernel)
  exact ⟨by decide +kernel, ⟨written, _, hwritten⟩, by decide +kernel⟩

end Command

end OpenApi

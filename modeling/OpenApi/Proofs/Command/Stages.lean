import OpenApi.Command.Run
import OpenApi.Proofs.Document.Depth

/-!
What commands find out before they write. Up to the first file that is written, a command only reads
(`Finds`), so one that stops before that leaves the workspace as it was (`runOn_unchanged`): also if it
is the last of its files that cannot be compiled, when the others are there already.
-/

theorem Except.mapError_eq_error {ε ε' α : Type} {x : Except ε α} {g : ε → ε'} {e' : ε'} :
    x.mapError g = .error e' ↔ ∃ e, x = .error e ∧ g e = e' := by
  cases x <;> simp [Except.mapError]

namespace OpenApi.Command

/-! ## Reading -/

/-- In the workspace the action has the result, and it changes nothing but what has been said. -/
def Finds {α : Type} (w : Workspace) (action : Action (StateM Machine) α) (result : Except Failure α) :
    Prop :=
  ∀ said, ∃ told, action ⟨w, said⟩ = (result, ⟨w, said ++ told⟩)

namespace Finds

variable {α β : Type} {w : Workspace} {action : Action (StateM Machine) α} {result : Except Failure α}

/-- What is known already. -/
theorem known (result : Except Failure α) : Finds w (ExceptT.mk (Pure.pure result)) result :=
  fun said => ⟨[], by rw [List.append_nil]; rfl⟩

theorem pure (a : α) : Finds w (Pure.pure a) (.ok a) := known _

theorem throw (failure : Failure) : Finds w (MonadExcept.throw failure) (.error failure : Except _ α) :=
  known _

theorem say (line : String) : Finds w (Command.say line) (.ok ()) := fun _ => ⟨[line], rfl⟩

theorem bind {next : α → Action (StateM Machine) β} {results : α → Except Failure β}
    (h : Finds w action result) (hnext : ∀ a, Finds w (next a) (results a)) :
    Finds w (action >>= next) (result >>= results) := by
  intro said
  obtain ⟨told, h⟩ := h said
  show ∃ more, ExceptT.bindCont next (action ⟨w, said⟩).1 (action ⟨w, said⟩).2 = _
  rw [h]
  cases result with
  | error failure => exact ⟨told, rfl⟩
  | ok a =>
    obtain ⟨more, hmore⟩ := hnext a (said ++ told)
    exact ⟨told ++ more, by rw [← List.append_assoc]; exact hmore⟩

/-- Nothing comes after a failure. -/
theorem bind_error {failure : Failure} {next : α → Action (StateM Machine) β}
    (h : Finds w action (.error failure)) : Finds w (action >>= next) (.error failure) := by
  intro said
  obtain ⟨told, h⟩ := h said
  refine ⟨told, ?_⟩
  show ExceptT.bindCont next (action ⟨w, said⟩).1 (action ⟨w, said⟩).2 = _
  rw [h]
  rfl

variable {result' : Except Failure β}

theorem after_say {line : String} {next : Unit → Action (StateM Machine) β}
    (h : Finds w (next ()) result') : Finds w (Command.say line >>= next) result' := by
  have hsaid : Finds w (Command.say line >>= next) (.ok () >>= fun _ => result') :=
    (say line).bind fun _ => h
  exact hsaid

theorem after_isThere {path : String} {next : Bool → Action (StateM Machine) β}
    (h : Finds w (next (w.isThere path)) result') :
    Finds w (ExceptT.lift (Host.isThere path) >>= next) result' := h

theorem after_read {path : String} {next : Except FileError String → Action (StateM Machine) β}
    (h : Finds w (next (w.read path)) result') :
    Finds w (ExceptT.lift (Host.read path) >>= next) result' := h

end Finds

/-! ## Stages -/

/-- The configuration in a workspace, or the one that holds where there is none. -/
def configIn (w : Workspace) : Except Failure Config :=
  if w.isThere configPath then
    match w.read configPath with
    | .error e =>
      .error ⟨"failed to read config " ++ configPath ++ ": " ++ e.message, [e.message]⟩
    | .ok text => configOf text
  else .ok {}

/-- The document in a file of a workspace. -/
def documentIn (w : Workspace) (path : String) : Except Failure Document :=
  match w.read path with
  | .error e => .error (.ofFile ("failed to read " ++ path) e)
  | .ok text => documentOf path text

variable {w : Workspace}

theorem finds_loadConfig : Finds w loadConfig (configIn w) := by
  refine .after_isThere ?_
  unfold configIn
  split
  · refine .after_read ?_
    cases w.read configPath with
    | error e => exact .throw _
    | ok text => exact .known _
  · exact .pure _

theorem finds_loadDocument (path : String) : Finds w (loadDocument path) (documentIn w path) := by
  refine .after_read ?_
  unfold documentIn
  cases w.read path with
  | error e => exact .throw _
  | ok text => exact .known _

/-- What is to be written for a workspace. -/
def outputIn (w : Workspace) (input output : Option String) (annotate : Bool) :
    Except Failure Output := do
  let config ← configIn w
  let document ← documentIn w (input.getD config.input)
  let files ← compile config document
  let content (file : File) : String :=
    if annotate then file.content.annotated else file.content.render
  return { directory := output.getD config.output,
           files := files.map (fun file => (file.path, content file)) ++ [readme] }

theorem finds_prepare (input output : Option String) (annotate : Bool) :
    Finds w (prepare input output annotate) (outputIn w input output annotate) := by
  refine .bind finds_loadConfig fun config => .bind (finds_loadDocument _) fun document => ?_
  exact .after_say (.bind (.known _) fun files => .pure _)

/-- Whether the operations of a document can be counted. -/
def countable (document : Document) : Except Failure Unit := do
  let _ ← document.operations.mapError (Failure.ofChain ·.chain)

theorem finds_describe (document : Document) : Finds w (describe document) (countable document) :=
  .after_say (.after_say (.after_say (.after_say (.bind (.known _) fun _ => .say _))))

/-- What a workspace is checked for. -/
def checkIn (w : Workspace) (path : String) : Except Failure Unit := do
  let document ← documentIn w path
  countable document
  let config ← configIn w
  let _ ← compile config document

theorem finds_check (path : String) : Finds w (check path) (checkIn w path) := by
  refine .bind (finds_loadDocument path) fun document => .bind (finds_describe document) fun _ => ?_
  refine .bind finds_loadConfig fun config => .bind (.known _) fun files => ?_
  exact .after_say (.say _)

/-! ## Failing before anything is written -/

/-- The generation fails before anything is written: on the configuration, on the document, on the
formats that the configuration declares, or on one of the files. -/
inductive Stopped (w : Workspace) (input : Option String) : Failure → Prop
  | config {failure : Failure} (hconfig : configIn w = .error failure) : Stopped w input failure
  | document {config : Config} {failure : Failure} (hconfig : configIn w = .ok config)
    (hdocument : documentIn w (input.getD config.input) = .error failure) : Stopped w input failure
  | formats {config : Config} {document : Document} {e : ConfigError}
    (hconfig : configIn w = .ok config)
    (hdocument : documentIn w (input.getD config.input) = .ok document)
    (hplan : Plan.ofConfig config = .error e) :
    Stopped w input ⟨"invalid format configuration", [e.message]⟩
  | files {config : Config} {document : Document} {plan : Plan} {e : CompileError}
    {issued : List Warning} (hconfig : configIn w = .ok config)
    (hdocument : documentIn w (input.getD config.input) = .ok document)
    (hplan : Plan.ofConfig config = .ok plan)
    (hfiles : plan.generate document [] = (.error e, issued)) :
    Stopped w input ⟨"failed to compile document", e.chain⟩

theorem compile_eq_error {config : Config} {document : Document} {failure : Failure} :
    compile config document = .error failure ↔
      (∃ e, Plan.ofConfig config = .error e ∧
        failure = ⟨"invalid format configuration", [e.message]⟩) ∨
      ∃ plan e issued, Plan.ofConfig config = .ok plan ∧
        plan.generate document [] = (.error e, issued) ∧
        failure = ⟨"failed to compile document", e.chain⟩ := by
  rw [compile, Except.bind_eq_error, Except.mapError_eq_error]
  refine or_congr (exists_congr fun e => and_congr_right fun _ => eq_comm) (exists_congr fun plan => ?_)
  rw [Except.mapError_eq_ok, Except.mapError_eq_error]
  constructor
  · rintro ⟨hplan, e, he, hfailure⟩
    exact ⟨e, _, hplan, Prod.ext he rfl, hfailure.symm⟩
  · rintro ⟨e, issued, hplan, he, hfailure⟩
    exact ⟨hplan, e, congrArg Prod.fst he, hfailure.symm⟩

/-- Whatever goes wrong before anything is written is one of these failures. -/
theorem outputIn_eq_error {input output : Option String} {annotate : Bool} {failure : Failure} :
    outputIn w input output annotate = .error failure ↔ Stopped w input failure := by
  simp only [outputIn, Except.bind_eq_error]
  constructor
  · rintro (hconfig | ⟨config, hconfig, hdocument | ⟨document, hdocument, hcompile | ⟨files, _, h⟩⟩⟩)
    · exact .config hconfig
    · exact .document hconfig hdocument
    · rcases compile_eq_error.1 hcompile with
        ⟨e, hplan, rfl⟩ | ⟨plan, e, issued, hplan, hfiles, rfl⟩
      · exact .formats hconfig hdocument hplan
      · exact .files hconfig hdocument hplan hfiles
    · cases h
  · rintro (hconfig | ⟨hconfig, hdocument⟩ | ⟨hconfig, hdocument, hplan⟩ |
      ⟨hconfig, hdocument, hplan, hfiles⟩)
    · exact .inl hconfig
    · exact .inr ⟨_, hconfig, .inl hdocument⟩
    · exact .inr ⟨_, hconfig, .inr ⟨_, hdocument,
        .inl (compile_eq_error.2 (.inl ⟨_, hplan, rfl⟩))⟩⟩
    · exact .inr ⟨_, hconfig, .inr ⟨_, hdocument,
        .inl (compile_eq_error.2 (.inr ⟨_, _, _, hplan, hfiles, rfl⟩))⟩⟩

/-! ## Runs -/

/-- What a command does on a machine: the code that the program ends with, and the machine then. -/
def runOn (machine : Machine) (command : Command) : UInt32 × Machine :=
  (execute command : StateM Machine UInt32) machine

variable {machine machine' : Machine} {command : Command}

theorem forM_say (lines : List String) (machine : Machine) :
    (lines.forM Host.say : StateM Machine Unit) machine =
      ((), { machine with said := machine.said ++ lines }) := by
  induction lines generalizing machine with
  | nil => rw [List.append_nil]; rfl
  | cons line lines ih =>
    show (lines.forM Host.say : StateM Machine Unit) { machine with said := machine.said ++ [line] } = _
    rw [ih, List.append_assoc]
    rfl

/-- How the program ends after an action: a failure is told. -/
def ending : Except Failure Unit → Machine → UInt32 × Machine
  | .ok (), machine => (0, machine)
  | .error failure, machine => (1, { machine with said := machine.said ++ failure.lines })

theorem bind_apply {α β : Type} {step : StateM Machine α} {next : α → StateM Machine β} {a : α}
    (h : step machine = (a, machine')) : (step >>= next) machine = next a machine' := by
  show next (step machine).1 (step machine).2 = _
  rw [h]

theorem runOn_of_run {result : Except Failure Unit}
    (h : (run command : Action (StateM Machine) Unit) machine = (result, machine')) :
    runOn machine command = ending result machine' := by
  unfold runOn execute
  refine (bind_apply h).trans ?_
  cases result with
  | ok => rfl
  | error failure => exact bind_apply (forM_say failure.lines machine')

/-- A command that only reads leaves the workspace as it was, whether it fails or not. -/
theorem Finds.runOn_eq (command : Command) {result : Except Failure Unit}
    (h : Finds machine.workspace (run command) result) :
    ∃ told, runOn machine command =
      ending result { machine with said := machine.said ++ told } := by
  obtain ⟨told, h⟩ := h machine.said
  exact ⟨told, runOn_of_run h⟩

theorem finds_writeConfig (h : w.isThere configPath = true) : Finds w (writeConfig false)
    (.error { message := configPath ++ " already exists. Use --force to overwrite." }) := by
  refine .after_isThere ?_
  rw [h]
  exact .throw _

/-- A generation that fails before anything is written, a check, and a configuration that is not written
since there is one: all of them leave the workspace as it was. -/
theorem runOn_unchanged (machine : Machine) :
    (∀ input output annotate failure, Stopped machine.workspace input failure →
      ∃ told, runOn machine (.generate input output annotate) =
        (1, { machine with said := machine.said ++ told ++ failure.lines })) ∧
    (∀ input, ∃ code told, runOn machine (.validate input) =
      (code, { machine with said := machine.said ++ told })) ∧
    (machine.workspace.isThere configPath = true → ∃ told, runOn machine (.init false) =
      (1, { machine with said := machine.said ++ told })) := by
  refine ⟨fun input output annotate failure hstopped => ?_, fun input => ?_, fun hthere => ?_⟩
  · have hprepare := finds_prepare (w := machine.workspace) input output annotate
    rw [outputIn_eq_error.2 hstopped] at hprepare
    exact Finds.runOn_eq (.generate input output annotate) hprepare.bind_error
  · obtain ⟨told, h⟩ := Finds.runOn_eq (.validate input) (finds_check input)
    cases hresult : checkIn machine.workspace input with
    | ok => exact ⟨0, told, by rw [h, hresult]; rfl⟩
    | error failure => exact ⟨1, told ++ failure.lines, by rw [h, hresult, ← List.append_assoc]; rfl⟩
  · obtain ⟨told, h⟩ := Finds.runOn_eq (.init false) (finds_writeConfig hthere)
    exact ⟨_, h.trans (by rw [ending, List.append_assoc])⟩

/-- A workspace with files that were generated before, and a document that only the file of a server
cannot be written for: it has a list in the query of a call, which no server can unpack. -/
def listed : Machine where
  workspace := [([".oac.yaml"], .file "output: out\n"), (["out"], .directory),
    (["out", "types.ts"], .file "export \x7b\x7d;\n"), (["api.json"], .file (Json.object [
      ("openapi", .string "3.0.3"),
      ("info", .object [("title", .string "T"), ("version", .string "1")]),
      ("paths", .object [("/a", .object [("get", .object [("operationId", .string "find"),
        ("parameters", .array [.object [("name", .string "q"), ("in", .string "query"),
          ("schema", .object [("type", .string "array")])]])])])])]).text)]

theorem runOn_unchanged_listed :
    (documentIn listed.workspace "api.json" >>= compile { targets := { server := false } }).isOk ∧
    (∃ failure told, Stopped listed.workspace (some "api.json") failure ∧
      runOn listed (.generate (some "api.json") none false) = (1, { listed with said := told })) ∧
    (∃ code told, runOn listed (.validate "api.json") = (code, { listed with said := told })) ∧
    listed.workspace.isThere configPath = true ∧
    ∃ told, runOn listed (.init false) = (1, { listed with said := told }) := by
  have hthere : listed.workspace.isThere configPath = true := by decide +kernel
  have hstopped : ∃ failure, Stopped listed.workspace (some "api.json") failure := by
    have herror : (outputIn listed.workspace (some "api.json") none false).isOk = false := by
      decide +kernel
    cases h : outputIn listed.workspace (some "api.json") none false with
    | error failure => exact ⟨failure, outputIn_eq_error.1 h⟩
    | ok output => rw [h] at herror; cases herror
  obtain ⟨failure, hstopped⟩ := hstopped
  obtain ⟨hgenerate, hvalidate, hinit⟩ := runOn_unchanged listed
  obtain ⟨told, hgenerate⟩ := hgenerate (some "api.json") none false failure hstopped
  obtain ⟨code, told', hvalidate⟩ := hvalidate "api.json"
  obtain ⟨told'', hinit⟩ := hinit hthere
  exact ⟨by decide +kernel, ⟨failure, _, hstopped, hgenerate⟩, ⟨code, _, hvalidate⟩, hthere, _, hinit⟩

end OpenApi.Command

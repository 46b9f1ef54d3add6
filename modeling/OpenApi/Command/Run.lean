import OpenApi.Command
import OpenApi.Command.Failure
import OpenApi.Document.Text
import OpenApi.Generate
import OpenApi.Workspace.Host

/-!
What the commands do. Nothing is written before everything that is to be written is there.
-/

namespace OpenApi.Command

/-- Where the configuration is. -/
def configPath : String := ".oac.yaml"

/-- The file beside the generated ones that tells what they are. -/
def readme : String × String :=
  ("README.md",
    "# Generated Code: Do Not Edit\n" ++
    "\n" ++
    "This directory is generated by `oac` from an OpenAPI document.\n" ++
    "Any manual changes will be overwritten the next time `oac generate` is run.\n" ++
    "\n" ++
    "To regenerate, run:\n" ++
    "```\n" ++
    "oac generate\n" ++
    "```\n" ++
    "\n" ++
    "To change what is generated, edit your `.oac.yaml` configuration file.\n")

/-! ## Compiling -/

/-- The document that a text holds, which is YAML unless the name of its file says otherwise. -/
def documentOf (path text : String) : Except Failure Document :=
  let document := if Path.extension? path = some "json" then Document.ofJsonText text
    else Document.ofYamlText text
  document.mapError fun e => ⟨"failed to parse " ++ path, e.chain⟩

/-- The configuration that a text holds. -/
def configOf (text : String) : Except Failure Config :=
  (Config.ofYamlText text).mapError fun e =>
    ⟨"failed to parse config " ++ configPath ++ ": " ++ e.message, [e.message]⟩

/-- The generated files. Warnings are not for the user of the commands. -/
def compile (config : Config) (document : Document) : Except Failure (List File) := do
  let plan ← (Plan.ofConfig config).mapError fun e =>
    ⟨"invalid format configuration", [e.message]⟩
  ((plan.generate document).run.run []).1.mapError fun e =>
    ⟨"failed to compile document", e.chain⟩

/-! ## Actions -/

variable {m : Type → Type} [Monad m] [Host m]

/-- What a command does on a machine; it may fail. -/
abbrev Action (m : Type → Type) (α : Type) := ExceptT Failure m α

/-- Tells something. -/
def say (line : String) : Action m Unit := ExceptT.lift (Host.say line)

/-- The configuration, if there is one, or what holds anyway. -/
def loadConfig : Action m Config := do
  if ← ExceptT.lift (Host.isThere configPath) then
    match ← ExceptT.lift (Host.read configPath) with
    | .error e =>
      throw ⟨"failed to read config " ++ configPath ++ ": " ++ e.message, [e.message]⟩
    | .ok text => ExceptT.mk (pure (configOf text))
  else
    return {}

/-- The document in a file. -/
def loadDocument (path : String) : Action m Document := do
  match ← ExceptT.lift (Host.read path) with
  | .error e => throw (.ofFile ("failed to read " ++ path) e)
  | .ok text => ExceptT.mk (pure (documentOf path text))

/-- Files that are to be written, by their names, and the directory for them. -/
structure Output where
  directory : String
  files : List (String × String)
  deriving DecidableEq, Repr, Inhabited

/-- What is to be written for a document. -/
def prepare (input output : Option String) (annotate : Bool) : Action m Output := do
  let config ← loadConfig
  let path := input.getD config.input
  let directory := output.getD config.output
  let document ← loadDocument path
  say ("Generating " ++ path ++ " → " ++ directory)
  let files ← ExceptT.mk (pure (compile config document))
  let content (file : File) : String :=
    if annotate then file.content.annotated else file.content.render
  return { directory, files := files.map (fun file => (file.path, content file)) ++ [readme] }

/-- Writes a file into a directory, which is made if it is not there. -/
def writeFile (directory : String) (file : String × String) : Action m Unit := do
  let path := Path.join directory file.1
  let parent := Path.trimmed directory
  match ← ExceptT.lift (Host.makeDirectories parent) with
  | .error e => throw (.ofFile ("failed to create directory " ++ parent) e)
  | .ok () =>
    match ← ExceptT.lift (Host.write path file.2) with
    | .error e => throw (.ofFile ("failed to write " ++ path) e)
    | .ok () => say ("  wrote " ++ path)

/-- Writes everything, as far as it can be written. -/
def writeOutput (output : Output) : Action m Unit := do
  output.files.forM (writeFile output.directory)
  say ("Generated " ++ toString output.files.length ++ " files in " ++ output.directory)

/-- Tells what is in a document. -/
def describe (document : Document) : Action m Unit := do
  let spec := document.spec
  say ("Valid OpenAPI " ++ spec.openapi ++ " document: " ++ spec.info.title)
  say ("  Version: " ++ spec.info.version)
  say ("  Paths: " ++ toString spec.paths.length)
  say ("  Schemas: " ++ toString spec.schemas.length)
  let operations ← ExceptT.mk (pure (document.operations.mapError (Failure.ofChain ·.chain)))
  say ("  Operations: " ++ toString operations.length)

/-- Checks that files can be generated for a document. -/
def check (input : String) : Action m Unit := do
  let document ← loadDocument input
  describe document
  let config ← loadConfig
  let files ← ExceptT.mk (pure (compile config document))
  say ("  Compiled files: " ++ toString files.length)
  say "Validation successful."

/-- Writes a configuration; one that is there is overwritten only if that is wanted. -/
def writeConfig (force : Bool) : Action m Unit := do
  if (← ExceptT.lift (Host.isThere configPath)) && !force then
    throw { message := configPath ++ " already exists. Use --force to overwrite." }
  else
    match ← ExceptT.lift (Host.write configPath Config.defaultText) with
    | .error e => throw { message := e.message }
    | .ok () => say ("Created " ++ configPath)

/-- What a command does. -/
def run : Command → Action m Unit
  | .generate input output annotate => do writeOutput (← prepare input output annotate)
  | .validate input => check input
  | .init force => writeConfig force

/-- Runs a command, tells why it failed if it did, and gives the code that the program ends with. -/
def execute (command : Command) : m UInt32 := do
  match ← (run command : Action m Unit).run with
  | .ok () => return 0
  | .error failure =>
    failure.lines.forM Host.say
    return 1

end OpenApi.Command

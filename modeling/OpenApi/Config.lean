import OpenApi.Format.Registry
import OpenApi.Json.Decode

/-!
The configuration of a run: where the document is and where the generated files go, which files to
generate, and string formats beside the built-in ones.
-/

namespace OpenApi

/-- Which files to generate. -/
structure Targets where
  types : Bool := true
  validators : Bool := true
  client : Bool := true
  server : Bool := true
  deriving DecidableEq, Repr, Inhabited

/-- A template as it is declared. -/
structure TemplateText where
  parameter : String
  body : String
  deriving DecidableEq, Repr, Inhabited

/-- A string format as it is declared. -/
structure FormatDeclaration where
  type : String
  parse : TemplateText
  serialize : TemplateText
  instanceTest : Option TemplateText := none
  imports : Members (List String) := []
  deriving DecidableEq, Repr, Inhabited

/-- A configuration. -/
structure Config where
  input : String := "openapi.yaml"
  output : String := "src/generated"
  /-- the module with the helpers that generated code calls -/
  runtimeModule : String := "oac-runtime"
  targets : Targets := {}
  formats : Members FormatDeclaration := []
  deriving DecidableEq, Repr, Inhabited

/-- Why there is no configuration, or none that can be used. -/
inductive ConfigError where
  | yaml
  | emptyType (format : String)
  | template (format : String) (cause : TemplateError)
  deriving DecidableEq, Repr

/-- The text of a failure to use a configuration. -/
def ConfigError.message : ConfigError → String
  | .yaml => "not a configuration"
  | .emptyType format => "invalid format declaration '" ++ format ++ "': empty type"
  | .template format cause => "invalid format declaration '" ++ format ++ "': " ++ cause.message

/-! ## Reading -/

/-- How configurations are written in values of type `ν`. -/
structure ConfigSource (ν : Type) where
  string : Decoder ν String
  bool : Decoder ν Bool
  /-- a value that stands for nothing where something is optional -/
  isAbsent : ν → Bool
  list : Decoder ν (List ν)
  map : Decoder ν (List (String × ν))
  record : {α : Type} → String → Decode.Part ν α → Decoder ν α

/-- Configurations in JSON. -/
def ConfigSource.json : ConfigSource Json where
  string := Decode.string
  bool := Decode.bool
  isAbsent value := value.found = .null
  list := Decode.list .ok
  map := Decode.map .ok
  record := Decode.record

namespace ConfigSource

open Decode

variable {ν α : Type} (w : ConfigSource ν)

/-- A list of `α`. -/
def listOf (decode : Decoder ν α) : Decoder ν (List α) := fun value => do
  (← w.list value).mapM decode

/-- A map to `α`; of two values under one name the later one counts. -/
def mapOf (decode : Decoder ν α) : Decoder ν (Members α) := fun value => do
  Members.ofList <$> (← w.map value).mapM fun (name, value) => (decode value).map (name, ·)

/-- An `α` or nothing. -/
def optionOf (decode : Decoder ν α) : Decoder ν (Option α) := fun value =>
  if w.isAbsent value then .ok none else (decode value).map some

/-- A choice of files. -/
def targets : Decoder ν Targets :=
  let target (name : String) : Part ν Bool := orElse name true w.bool
  w.record "Targets"
    (Targets.mk <$> target "types" <*> target "validators" <*> target "client" <*> target "server")

/-- A template. -/
def templateText : Decoder ν TemplateText :=
  w.record "FunctionSpec"
    (TemplateText.mk <$> mandatory "param" w.string <*> mandatory "body" w.string)

/-- A string format. -/
def formatDeclaration : Decoder ν FormatDeclaration :=
  w.record "FormatConfig"
    (FormatDeclaration.mk
      <$> mandatory "type" w.string
      <*> mandatory "parse" w.templateText
      <*> mandatory "serialize" w.templateText
      <*> orElse "instanceof" none (w.optionOf w.templateText)
      <*> orElse "imports" [] (w.mapOf (w.listOf w.string)))

/-- A whole configuration; everything in it has a default. -/
def config : Decoder ν Config :=
  let usual : Config := {}
  w.record "OacConfig"
    (Config.mk
      <$> orElse "input" usual.input w.string
      <*> orElse "output" usual.output w.string
      <*> orElse "runtime_module" usual.runtimeModule w.string
      <*> orElse "targets" usual.targets w.targets
      <*> orElse "formats" usual.formats (w.mapOf w.formatDeclaration))

end ConfigSource

/-- The text of a configuration that says what holds anyway. -/
def Config.defaultText : String :=
  "# oac configuration\n" ++
  "input: openapi.yaml\n" ++
  "output: src/generated\n" ++
  "runtime_module: oac-runtime\n" ++
  "\n" ++
  "targets:\n" ++
  "  types: true\n" ++
  "  validators: true\n" ++
  "  client: true\n" ++
  "  server: true\n" ++
  "\n" ++
  "# Extra string formats. `param` names the input inside `body`.\n" ++
  "formats: \x7b\x7d\n" ++
  "  # decimal:\n" ++
  "  #   type: Decimal\n" ++
  "  #   parse: \x7b param: s, body: \"new Decimal(s)\" \x7d\n" ++
  "  #   serialize: \x7b param: d, body: \"d.toString()\" \x7d\n" ++
  "  #   instanceof: \x7b param: v, body: \"v instanceof Decimal\" \x7d\n" ++
  "  #   imports:\n" ++
  "  #     decimal.js: [Decimal]\n"

/-! ## Formats -/

/-- The format that is declared under `name`. -/
def Format.ofDeclaration (name : String) (d : FormatDeclaration) : Except ConfigError Format := do
  let template (t : TemplateText) : Except ConfigError Template :=
    (Template.new t.parameter t.body).mapError (.template name)
  if (Text.trimChars d.type.toList).isEmpty then throw (.emptyType name)
  let parse ← template d.parse
  let serialize ← template d.serialize
  let instanceTest ← d.instanceTest.mapM template
  pure { name, type := d.type, parse, serialize, instanceTest, imports := d.imports }

/-- The built-in formats and the declared ones, which go before a built-in one of their name. -/
def Registry.ofConfig (config : Config) : Except ConfigError Registry :=
  config.formats.foldlM
    (fun registry (name, d) => return registry.put name (← Format.ofDeclaration name d))
    (Registry.builtin config.runtimeModule)

end OpenApi

import OpenApi.Document
import OpenApi.Json.Reader
import OpenApi.Yaml.Node.Config
import OpenApi.Yaml.Node.Json
import OpenApi.Yaml.Node.Reader

/-!
Documents and configurations as texts.
-/

namespace OpenApi

/-- The document that a JSON text holds. -/
def Document.ofJsonText (text : String) : Except ParseError Document :=
  match Json.read? text with
  | some raw => ofJson raw
  | none => .error .json

/-- The document that a YAML text holds. -/
def Document.ofYamlText (text : String) : Except ParseError Document :=
  match (Yaml.Graph.ofText? text).bind Yaml.Graph.toJson? with
  | some raw => ofJson raw
  | none => .error .yaml

/-- The configuration that a YAML text holds. -/
def Config.ofYamlText (text : String) : Except ConfigError Config :=
  match Yaml.Graph.ofText? text with
  | some graph => (ConfigSource.yaml.config ⟨graph, graph.root⟩).mapError fun _ => .yaml
  | none => .error .yaml

end OpenApi

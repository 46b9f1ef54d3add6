import OpenApi.Direction
import OpenApi.Error
import OpenApi.Format.Template

/-!
String formats. A format gives a string a type of its own in generated code, with templates that
convert between the two; the registry holds the built-in formats and those that a configuration
declares.
-/

namespace OpenApi

/-- A string format. -/
structure Format where
  name : String
  /-- the type of the parsed value -/
  type : String
  parse : Template
  serialize : Template
  /-- a test whether a value has the type -/
  instanceTest : Option Template := none
  /-- modules with the symbols that the code above needs from them -/
  imports : Members (List String) := []
  deriving DecidableEq, Repr

namespace Format

/-- The origin of text that the format declares. -/
def origin (f : Format) : Origin := .stringFormat f.name

/-- The type of the parsed value. -/
def typeCode (f : Format) : Code := .tagged f.type f.origin

/-- The template that converts in the given direction. -/
def template (f : Format) : Direction → Template
  | .parse => f.parse
  | .serialize => f.serialize

/-- A value converted in the given direction. -/
def convertCode (f : Format) (d : Direction) (value : Code) : Code :=
  (f.template d).apply value f.origin

/-- The test whether a value has the type, if there is one. -/
def instanceCode? (f : Format) (value : Code) : Option Code :=
  f.instanceTest.map fun t => t.apply value f.origin

/-- The formats that are always there. The helpers for UUIDs come from the runtime module. -/
def builtin (runtimeModule : String) : List Format :=
  let date (name serialize : String) : Format :=
    { name, type := "Date", parse := .ofBody "s" "new Date(s)",
      serialize := .ofBody "d" serialize,
      instanceTest := some (.ofBody "v" "v instanceof Date") }
  let plain (name : String) : Format :=
    { name, type := "string", parse := .ofBody "s" "s", serialize := .ofBody "s" "s" }
  [ { name := "uri", type := "URL", parse := .ofBody "s" "new URL(s)",
      serialize := .ofBody "u" "u.href",
      instanceTest := some (.ofBody "v" "v instanceof URL") },
    date "date-time" "d.toISOString()",
    date "http-date" "d.toUTCString()",
    { name := "uuid", type := "Uuid", parse := .ofBody "s" "parseUuid(s)",
      serialize := .ofBody "u" "u",
      instanceTest := some (.ofBody "v" "isUuid(v)"),
      imports := [(runtimeModule, ["Uuid", "parseUuid", "isUuid"])] },
    plain "ipv4", plain "ipv6", plain "password" ]

end Format

/-- The formats of a run, each under its name. -/
abbrev Registry := Members Format

namespace Registry

/-- The built-in formats. -/
def builtin (runtimeModule : String) : Registry :=
  (Format.builtin runtimeModule).map fun f => (f.name, f)

/-- The format `name`; that there is none is a failure of the schema that uses it. -/
def require (registry : Registry) (name : String) (schema : Keywords Schema) :
    Except CompileError Format :=
  match registry.get? name with
  | some format => .ok format
  | none => .error (.unknownFormat name schema)

end Registry

end OpenApi

import OpenApi.Compiler.Conversion
import OpenApi.Parameter.Form
import OpenApi.Schema.Check

/-!
Unpacking the value of a parameter from the string that travelled, with the checks that its schema
asks for. Arrays and objects are not unpacked.
-/

namespace OpenApi

/-- The scalars that are unpacked. -/
inductive ScalarKind where
  | integer
  | number
  | string
  deriving DecidableEq, Repr, Inhabited

/-- What kind of scalar a schema describes, if it describes one. -/
def Keywords.scalarKind? {σ : Type} (k : Keywords σ) : Option ScalarKind :=
  let isString := !k.isComposite && !k.isObjectLike && k.items.isNone
  match k.type with
  | some .integer => some .integer
  | some .number => some .number
  | some .string | none => if isString then some .string else none
  | _ => none

/-- The function of a raw string, applied to `raw`: some statements, and the value that it
returns. -/
def Code.unpackedBy (raw : Code) (parameter annotation : String) (statements : List Code)
    (result : Code) : Code :=
  cat [(cat ["(", parameter, ": string)", annotation, " => ",
    (join " " (statements ++ [result.returned])).braced]).parens, raw.parens]

namespace Compiler

/-- The statements that report the values that fail a check. -/
def failChecks (location : Location) (name : String) (checks : List Check) :
    Compile (List Code) :=
  checks.mapM fun check => do
    let failure ← Compile.throwMalformed location.name name (Text.quoted check.message)
    return Code.site ("if (" ++ check.failure ++ ") " ++ failure)

/-- A number from the string `raw`. -/
def unpackNumber (location : Location) (name : String) (k : Keywords Schema) (isInteger : Bool)
    (raw : Code) : Compile Code := do
  let text ← Compile.fresh "raw"
  let value ← Compile.fresh "value"
  let checks : List Check :=
    [⟨text ++ ".trim() === \"\" || Number.isNaN(" ++ value ++ ")", "expected a number"⟩] ++
      (if isInteger then [⟨"!Number.isInteger(" ++ value ++ ")", "expected an integer"⟩] else []) ++
      k.numberChecks value ++ k.membershipChecks value
  let statements ← failChecks location name checks
  return raw.unpackedBy text ": number"
    (Code.site ("const " ++ value ++ " = Number(" ++ text ++ ");") :: statements) value

/-- A string from the string `raw`, parsed if it has a format; there is no null among strings. -/
def unpackString (c : Compiler) (location : Location) (name : String) (k : Keywords Schema)
    (raw : Code) : Compile Code := do
  let text ← Compile.fresh "raw"
  let statements ← failChecks location name (k.stringChecks text ++ k.membershipChecks text)
  let schema : Schema := .inline { k with nullable := none }
  if statements.isEmpty then return ← c.convert .parse schema raw
  return raw.unpackedBy text "" statements (← c.convert .parse schema text)

/-- A scalar from the string `raw`. -/
def unpackScalar (c : Compiler) (p : Parameter) (schema : Schema) (raw : Code) : Compile Code := do
  let k ← c.document.keywordsOf schema
  match k.scalarKind? with
  | some .integer => unpackNumber p.location p.name k true raw
  | some .number => unpackNumber p.location p.name k false raw
  | some .string => c.unpackString p.location p.name k raw
  | none =>
    let type := (k.type.map SchemaType.name).getD "composite"
    throw (.notImplemented (.unpacking p.location p.name type))

/-- The value of a parameter from the string `raw`. For a flag `raw` may be undefined, and the value
is whether it is not. -/
def unpack (c : Compiler) (p : Parameter) (raw : Code) : Compile Code := do
  match ← p.form with
  | .flag => return (raw ++ " !== undefined").parens
  | .text => return raw
  | .json schema => do
    let json ← Compile.fresh "json"
    let parsed ← match schema with
      | some schema => c.convert? .parse schema json
      | none => pure none
    let read := Code.cat ["JSON.parse", raw.parens]
    match parsed with
    | none => return read
    | some parsed =>
      return Code.cat [(Code.cat ["(", json, ": any) => ", parsed.arrowBody]).parens, read.parens]
  | .styled schema =>
    match p.effectiveStyle with
    | .simple | .form => c.unpackScalar p schema raw
    | style => throw (.notImplemented (.style style p.location p.name))

end Compiler

end OpenApi

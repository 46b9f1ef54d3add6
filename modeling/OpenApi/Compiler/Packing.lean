import OpenApi.Compiler.Conversion
import OpenApi.Parameter.Form

/-!
Packing the value of a parameter into the strings that travel: a single text, or pairs of a key and
a value for queries and cookies.
-/

namespace OpenApi

/-- A packed value. -/
inductive Packed where
  /-- an array of pairs; a key whose value is null stands alone -/
  | pairs (code : Code)
  | text (code : Code)
  deriving DecidableEq, Repr, Inhabited

namespace Code

/-- The array with a single pair. -/
def singlePair (name : String) (text : Code) : Code :=
  (cat [quoted name, ", ", text]).brackets.brackets

/-- The array with a single pair if `access` is there, or else the empty one. -/
def pairIfPresent (access : Code) (name : String) (text : Code) : Code :=
  cat ["...", (cat [access, " !== undefined ? ", singlePair name text, " : []"]).parens]

/-- The elements of an array one by one, where `item` stands for each in `result`. -/
def mapped (array : Code) (item annotation : String) (result : Code) : Code :=
  cat [array, ".map", (cat ["(", item, ": any)", annotation, " => ", result]).parens]

/-- The strings of an array with commas between them. -/
def commaSeparated (array : Code) : Code := array ++ ".join(\",\")"

end Code

namespace Compiler

/-- A scalar as a string. -/
def packScalar (c : Compiler) (k : Keywords Schema) (value : Code) : Compile Code := do
  if k.isComposite then throw (.notImplemented .compositeParameter)
  let plain := Code.cat ["String", value.parens]
  let string := c.convert .serialize (.inline k) value
  match k.type with
  | some .integer | some .number | some .null => pure plain
  | some .boolean => pure (value ++ " ? \"true\" : \"\"").parens
  | some .string => string
  | some .array | some .object => throw (.notImplemented .nestedParameter)
  | some (.unknown name) => throw (.unknownType name .parameter)
  | none => if k.format.isSome then string else pure plain

/-- The items of an array as strings, commas between them. -/
def packItems (c : Compiler) (items : Keywords Schema) (value : Code) : Compile Code := do
  let item ← Compile.fresh "item"
  let packed ← c.packScalar items item
  let base := value.parenthesized
  if packed.render == item then return base.commaSeparated
  return (base.mapped item "" packed).commaSeparated

/-- The members of an object as elements of an array of pairs. -/
def packMembers (c : Compiler) (required : List String) (base : Code) :
    List (String × Schema) → Compile (List Code)
  | [] => pure []
  | (name, schema) :: rest => do
    let access := base.member name
    let packed ← c.packScalar (← c.document.keywordsOf schema) access
    let pair := if required.contains name then (Code.cat [quoted name, ", ", packed]).brackets
      else access.pairIfPresent name packed
    return pair :: (← packMembers c required base rest)

/-- The array of pairs of the members of an object: those that are declared, or, when none is, all
that there are. -/
def packObject (c : Compiler) (k : Keywords Schema) (value : Code) : Compile Code := do
  let base := value.parenthesized
  if k.properties.isEmpty then
    let schema ← match k.additionalProperties with
      | some (.schema schema) => c.document.keywordsOf schema
      | _ => pure {}
    let key ← Compile.fresh "key"
    let entry ← Compile.fresh "entry"
    let packed ← c.packScalar schema entry
    return Code.cat ["Object.entries", base.parens, ".map",
      (Code.cat ["([", key, ", ", entry, "]: [string, any]): [string, string] => ",
        (Code.cat [key, ", ", packed]).brackets]).parens]
  let pairs ← c.packMembers k.required base k.properties
  return (Code.cat [(Code.join ", " pairs).brackets, " as Array<[string, string]>"]).parens

/-- A value as one text: arrays and objects are lists with commas. -/
def packSimple (c : Compiler) (schema : Schema) (explode : Bool) (value : Code) : Compile Code := do
  match ← c.document.shapeOf schema with
  | .scalar k => c.packScalar k value
  | .array items => c.packItems items value
  | .object k => do
    let pairs ← c.packObject k value
    return Code.commaSeparated <|
      if explode then pairs ++ ".map(([key, item]) => key + \"=\" + item)" else pairs ++ ".flat()"

/-- A value as pairs: arrays and objects are spread over several pairs if they are to explode, and
otherwise are one pair with a list. -/
def packForm (c : Compiler) (name : String) (schema : Schema) (explode : Bool) (value : Code) :
    Compile Code := do
  match ← c.document.shapeOf schema with
  | .scalar k => return Code.singlePair name (← c.packScalar k value)
  | .array items =>
    if explode then
      let item ← Compile.fresh "item"
      let packed ← c.packScalar items item
      return value.parenthesized.mapped item ": [string, string]"
        (Code.cat [quoted name, ", ", packed]).brackets
    return Code.singlePair name (← c.packItems items value)
  | .object k =>
    let pairs ← c.packObject k value
    return if explode then pairs else Code.singlePair name (pairs ++ ".flat()").commaSeparated

/-- Text for a parameter at the given location. -/
def Packed.ofText (p : Parameter) (text : Code) : Packed :=
  match p.location with
  | .query | .cookie => .pairs (Code.singlePair p.name text)
  | .path | .header => .text text

/-- The packed value of a parameter. -/
def pack (c : Compiler) (p : Parameter) (value : Code) : Compile Packed := do
  match ← p.form with
  | .flag =>
    return .pairs (Code.cat [value.parenthesized, " ? ", Code.singlePair p.name "null", " : []"])
  | .json schema =>
    let serialized ← match schema with
      | some schema => c.convert .serialize schema value
      | none => pure value
    return Packed.ofText p (Code.cat ["JSON.stringify", serialized.parens])
  | .text => return Packed.ofText p value
  | .styled schema =>
    match p.effectiveStyle with
    | .simple => .text <$> c.packSimple schema p.effectiveExplode value
    | .form => .pairs <$> c.packForm p.name schema p.effectiveExplode value
    | style => throw (.notImplemented (.style style p.location p.name))

end Compiler

end OpenApi

import OpenApi.Compiler
import OpenApi.Document.AllOf
import OpenApi.Document.Union

/-!
Converting values between the wire and their types. A conversion is `none` when the value stays as
it is, so that values without a format anywhere inside them are left alone. A reference is converted
by the function declared for the schema behind it, if that has anything to convert. The value is an
expression without side effects; it may stand in the result more than once.
-/

namespace OpenApi

namespace Code

/-- The expression that runs statements and has the value that they return. -/
def immediate (body : Code) : Code := cat [(cat ["() => ", body.braced]).parens, "()"]

/-- Null, or else the converted value. -/
def unlessNull (value converted : Code) : Code :=
  (cat [value, " === null ? null : ", converted]).parens

/-- The statement that returns an expression. -/
def returned (expression : Code) : Code := cat ["return ", expression, ";"]

/-- The statement that returns an expression under a condition. -/
def returnedIf (condition expression : Code) : Code :=
  cat ["if ", condition.parens, " ", expression.returned]

/-- The test whether a value has one of the types that the language knows. -/
def hasType (value : Code) (name : String) : Code :=
  cat ["typeof ", value, " === ", quoted name]

/-- The test whether a value is an object that is no array. -/
def isRecord (value : Code) : Code :=
  cat [value.hasType "object", " && ", value, " !== null && !Array.isArray", value.parens]

/-- A member of a value under a key that is a literal. -/
def member (value : Code) (name : String) : Code := cat [value, (quoted name).brackets]

/-- The member of an object literal that is there if `access` is. -/
def memberIfPresent (access : Code) (name : String) (value : Code) : Code :=
  cat ["...",
    (cat [access, " !== undefined ? ", (cat [quoted name, ": ", value]).braced,
      " : \x7b\x7d"]).parens]

/-- The members of `value` under all keys but the known ones converted, the others as they are. -/
def mappedEntries (value : Code) (key entry : String) (known : List String) (converted : Code) :
    Code :=
  let mapped := if known.isEmpty then converted else
    cat [(join ", " (known.map quoted)).brackets, ".includes", (site key).parens, " ? ", entry,
      " : ", converted]
  let entries := cat ["Object.entries", value.parens, ".map",
    (cat ["([", key, ", ", entry, "]: [string, any]) => ",
      (cat [key, ", ", mapped]).brackets]).parens]
  cat ["Object.fromEntries", entries.parens]

end Code

/-- A conversion of values of a schema, where the value itself is given. -/
abbrev Convert := Schema → Code → Compile (Option Code)

namespace Compiler

/-! ## References -/

/-- The name of the function that converts values of the schema behind a reference. -/
def functionName (c : Compiler) (d : Direction) (reference : String) : Compile String := do
  let name ← (c.document.refName reference).mapError CompileError.unresolved
  c.qualify (d.verb ++ Name.capitalized name)

/-- Whether the schema behind a reference has anything to convert; `convert` converts what it
resolves to. The question opens again inside of itself when the schema is recursive: then the answer
is no, so that the parts that are not recursive decide. An answer that leant on a question that is
still open holds only for now; all others are settled. What is written to find out does not count. -/
def hasConversion (c : Compiler) (d : Direction) (convert : Convert) (reference : String) :
    Compile Bool := do
  let before ← get
  match before.probes.settled.lookup (reference, d) with
  | some known => pure known
  | none =>
    match before.probes.opened.idxOf? reference with
    | some place =>
      set { before with probes := before.probes.leanOn place }
      pure false
    | none =>
      set { before with probes := before.probes.opening reference }
      let target ← (c.document.resolveAs reference "schema" Schema.decode).mapError
        CompileError.unresolved
      let needed := (← convert target "value").isSome
      set { before with probes := before.probes.closing d reference needed (← get).probes }
      pure needed

/-- The conversion of a value by the function for the schema behind a reference; `needed` answers
whether that has anything to convert. -/
def convertRef (c : Compiler) (d : Direction) (needed : String → Compile Bool) (reference : String)
    (value : Code) : Compile (Option Code) := do
  if ← needed reference then
    let function ← c.functionName d reference
    return some (Code.cat [function, value.parens])
  return none

/-! ## Strings, arrays and objects -/

/-- The conversion that a format makes. -/
def convertFormat (d : Direction) (format : Format) (value : Code) : Compile (Option Code) := do
  if (format.template d).isIdentity then return none
  Compile.use (·.withImports format.imports)
  return some (format.convertCode d value)

/-- The conversion of a string. Listed strings stand for themselves, whatever their format. -/
def convertString (c : Compiler) (d : Direction) (k : Keywords Schema) (value : Code) :
    Compile (Option Code) :=
  match k.format with
  | none => pure none
  | some name =>
    if k.isLiteral then pure none
    else do convertFormat d (← c.formats.require name k) value

/-- The conversion of an array, item by item. -/
def convertArray (convert : Convert) (items : Option Schema) (value : Code) :
    Compile (Option Code) :=
  match items with
  | none => pure none
  | some items => do
    let item ← Compile.fresh "item"
    let some converted ← convert items item | return none
    return some (Code.cat [value.parenthesized, ".map",
      (Code.cat ["(", item, ": any) => ", converted.arrowBody]).parens])

/-- The members of an object that are converted one by one, as members of the result. -/
def convertMembers (convert : Convert) (required : List String) (base : Code) :
    List (String × Schema) → Compile (List Code)
  | [] => pure []
  | (name, schema) :: rest => do
    let access := base.member name
    let converted ← convert schema access
    let others ← convertMembers convert required base rest
    match converted with
    | none => return others
    | some value =>
      if required.contains name then return Code.cat [quoted name, ": ", value] :: others
      else return access.memberIfPresent name value :: others

/-- The further members of an object converted, if there is anything to convert. -/
def convertFurther (convert : Convert) (k : Keywords Schema) (base : Code) :
    Compile (Option Code) :=
  match k.additionalProperties with
  | some (.schema schema) => do
    let key ← Compile.fresh "key"
    let entry ← Compile.fresh "entry"
    let some converted ← convert schema entry | return none
    return some (base.mappedEntries key entry (k.properties.map (·.1)) converted)
  | _ => pure none

/-- The conversion of an object: all that it has, then the members that change. -/
def convertObject (convert : Convert) (k : Keywords Schema) (value : Code) :
    Compile (Option Code) := do
  let base := value.parenthesized
  let members ← convertMembers convert k.required base k.properties
  let further ← convertFurther convert k base
  if members.isEmpty && further.isNone then return none
  return some (Code.join ", " (Code.cat ["...", further.getD base] :: members)).braced

/-! ## Unions -/

/-- The reference that a discriminator maps a tag to; a plain name is that of a component. -/
def mappedReference (target : String) : String :=
  if target.startsWith "#" then target else "#/components/schemas/" ++ target

/-- The tags of a union with discriminator with the references that they lead to. A branch that the
mapping does not mention has the last segment of its reference as its tag. -/
def discriminatorCases (mapping : Members String) (branches : List Schema) :
    Except CompileError (List (String × String)) :=
  branches.foldlM
    (fun cases branch =>
      match branch with
      | .ref reference =>
        if cases.any (·.2 == reference) then pure cases
        else do
          let tag ← (Pointer.lastSegment? reference).mapError CompileError.unresolved
          pure (cases ++ [(tag.getD "", reference)])
      | _ => throw (.notImplemented .inlineBranch))
    (mapping.map fun (tag, target) => (tag, mappedReference target))

/-- The conversion of a union with discriminator: a case for every tag. -/
def convertDiscriminated (convert : Convert) (branches : List Schema)
    (discriminator : Discriminator) (value : Code) : Compile (Option Code) := do
  let cases ← discriminatorCases discriminator.mapping branches
  let converted ← cases.mapM fun (tag, reference) =>
    return (tag, ← convert (.ref reference) value)
  if converted.all (·.2.isNone) then return none
  let selector := value.parenthesized.member discriminator.propertyName
  let message := Code.cat ["\"unknown discriminator value \" + String", selector.parens]
  let failure ← Compile.throwMalformed "data" discriminator.propertyName message.render
  let arms := converted.map fun (tag, converted) =>
    Code.cat ["case ", quoted tag, ": ", (converted.getD value).returned]
  let body := Code.join " " (arms ++ [Code.cat ["default: ", failure]])
  return some (Code.cat ["switch ", selector.parens, " ", body.braced]).immediate

/-- The tests for the formats of a union of typed values, each with the string that it returns. -/
def serializeFormats (value : Code) : List Format → Compile (List Code)
  | [] => pure []
  | format :: rest => do
    let some test := format.instanceCode? value
      | throw (.notImplemented (.noInstanceTest format.name))
    let converted ← convertFormat .serialize format value
    return test.returnedIf (converted.getD value) :: (← serializeFormats value rest)

/-- The attempts to parse a string by the formats of a union, one after the other. -/
def parseFormats (value : Code) (formats : List Format) : Compile (List Code) :=
  formats.mapM fun format => do
    let converted ← convertFormat .parse format value
    return Code.cat ["try ", (converted.getD value).returned.braced, " catch \x7b\x7d"]

/-- The arrays of a union converted. Several branches for arrays are one branch with the union of
their items. -/
def convertArrays (convert : Convert) (arrays : List Schema) (value : Code) :
    Compile (Option Code) :=
  match arrays with
  | [] => pure none
  | [items] => convertArray convert (some items) value
  | items => convertArray convert (some (.inline { oneOf := items })) value

/-- The formats of a union that change a string. -/
def changingFormats (d : Direction) (shapes : UnionShapes) : List Format :=
  shapes.formats.filter fun f => !(f.template d).isIdentity

/-- The statement for the strings of a union: those that no format changes stay as they are. -/
def unionStrings (d : Direction) (shapes : UnionShapes) (value : Code) : Compile (List Code) := do
  let formats := changingFormats d shapes
  let isPlain := shapes.plainString || formats.length < shapes.formats.length
  match d with
  | .parse =>
    let attempts ← parseFormats value formats
    let statements := attempts ++ if isPlain then [value.returned] else []
    return if statements.isEmpty then [] else
      [Code.cat ["if ", (value.hasType "string").parens, " ", (Code.join " " statements).braced]]
  | .serialize => return if isPlain then [(value.hasType "string").returnedIf value] else []

/-- The statements for the typed values of a union that are told by the tests of its formats. -/
def unionInstances (d : Direction) (shapes : UnionShapes) (value : Code) : Compile (List Code) :=
  match d with
  | .parse => pure []
  | .serialize => serializeFormats value (changingFormats d shapes)

/-- The last statement of a union, for the values that belong to no branch before it. -/
def unionOthers (shapes : UnionShapes) (value : Code) : Compile Code :=
  if shapes.any then pure value.returned
  else Code.site <$> Compile.throwMalformed "data" "" (Text.quoted "value matches no union branch")

/-- The statements that tell the branch of a value by its type, where `object` and `array` are the
conversions of the branches for objects and for arrays. -/
def unionStatements (d : Direction) (shapes : UnionShapes) (object array : Option Code)
    (value : Code) : Compile (List Code) := do
  let given (present : Bool) (test : Code) : List Code := if present then [test] else []
  let instances ← unionInstances d shapes value
  let strings ← unionStrings d shapes value
  let last ← unionOthers shapes value
  return instances ++
    given (!shapes.objects.isEmpty) (value.isRecord.returnedIf (object.getD value)) ++
    given (!shapes.arrays.isEmpty)
      ((Code.cat ["Array.isArray", value.parens]).returnedIf (array.getD value)) ++
    given shapes.null ((value ++ " === null").returnedIf "null") ++
    given shapes.number ((value.hasType "number").returnedIf value) ++
    given shapes.boolean ((value.hasType "boolean").returnedIf value) ++
    strings ++ [last]

/-- The conversion of the branch for objects of a union. -/
def convertBranch (convert : Convert) (branches : List Schema) (value : Code) :
    Compile (Option Code) :=
  match branches with
  | [] => pure none
  | branch :: _ => convert branch value

/-- The conversions of the branches for objects and for arrays of a union. -/
def convertShapes (convert : Convert) (shapes : UnionShapes) (value : Code) :
    Compile (Option Code × Option Code) := do
  let object ← convertBranch convert shapes.objects value
  let array ← convertArrays convert shapes.arrays value
  return (object, array)

/-- The conversion of a union whose branches for objects and for arrays are converted. -/
def unionConversion (d : Direction) (shapes : UnionShapes) (object array : Option Code)
    (value : Code) : Compile (Option Code) := do
  if object.isNone && array.isNone && (changingFormats d shapes).isEmpty then return none
  return some (Code.join " " (← unionStatements d shapes object array value)).immediate

/-- The conversion of a union without discriminator: the type of the value tells the branch, and a
string that no format can read stays a string if the union has plain strings. -/
def convertUnion (c : Compiler) (d : Direction) (convert : Convert) (branches : List Schema)
    (value : Code) : Compile (Option Code) := do
  let shapes ← UnionShapes.ofBranches c.document c.formats branches
  if shapes.objects.length > 1 then throw (.notImplemented .objectBranches)
  let (object, array) ← convertShapes convert shapes value
  unionConversion d shapes object array value

/-! ## Schemas -/

/-- The conversion for the keywords of a schema. A composition goes first, then what the keyword
`type` says or the others suggest. -/
def convertKeywords (c : Compiler) (d : Direction) (depth : Nat) (convert : Convert)
    (k : Keywords Schema) (value : Code) : Compile (Option Code) := do
  if !k.allOf.isEmpty then
    return ← convertObject convert (← c.document.mergeAllOf depth k) value
  if !k.unionBranches.isEmpty then
    match k.discriminator with
    | some discriminator =>
      return ← convertDiscriminated convert k.unionBranches discriminator value
    | none => return ← c.convertUnion d convert k.unionBranches value
  match k.type with
  | some .string => c.convertString d k value
  | some .array => convertArray convert k.items value
  | some .object => convertObject convert k value
  | some (.unknown name) => throw (.unknownType name .value)
  | some _ => pure none
  | none =>
    if k.isObjectLike then convertObject convert k value
    else if k.items.isSome then convertArray convert k.items value
    else if k.format.isSome then c.convertString d k value
    else pure none

/-- The conversion of a value of a schema, followed so many levels down. `needed` answers whether
the schema behind a reference has anything to convert, by conversions one level further down. -/
def convertWith (c : Compiler) (d : Direction) (needed : Convert → String → Compile Bool) :
    Nat → Convert
  | 0, _, _ => throw .tooDeep
  | depth + 1, schema, value =>
    let convert := c.convertWith d needed depth
    match schema with
    | .bool _ => pure none
    | .ref reference => c.convertRef d (needed convert) reference value
    | .inline k => do
      let converted ← c.convertKeywords d depth convert k value
      pure (if k.isNullable then converted.map (Code.unlessNull value) else converted)

/-- The conversion of a value of a schema, followed so many levels down. -/
def convertTo (c : Compiler) (d : Direction) : Nat → Convert := c.convertWith d (c.hasConversion d)

/-- The conversion of a value of a schema, or nothing if the value stays as it is. -/
def convert? (c : Compiler) (d : Direction) (schema : Schema) (value : Code) :
    Compile (Option Code) :=
  c.convertTo d (c.depth schema) schema value

/-- The value of a schema converted, or as it is. -/
def convert (c : Compiler) (d : Direction) (schema : Schema) (value : Code) : Compile Code :=
  return (← c.convert? d schema value).getD value

/-- Whether the schema behind a reference has anything to convert. -/
def needsConversion (c : Compiler) (d : Direction) (reference : String) : Compile Bool :=
  c.hasConversion d (c.convertTo d (c.depth (.ref reference))) reference

end Compiler

end OpenApi

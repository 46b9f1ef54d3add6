import OpenApi.Json.Value

/-!
Schemas of an OpenAPI document. `Keywords σ` is what a schema object says about a value, with
schemas of type `σ` inside it; `Schema` closes the knot.
-/

namespace OpenApi

/-- The value of the keyword `type`. A word that is no JSON type is kept, so that it is reported
where the schema is used and not where the document is loaded. -/
inductive SchemaType where
  | null
  | boolean
  | integer
  | number
  | string
  | array
  | object
  | unknown (name : String)
  deriving DecidableEq, Repr

/-- The word for a type. -/
def SchemaType.name : SchemaType → String
  | .null => "null"
  | .boolean => "boolean"
  | .integer => "integer"
  | .number => "number"
  | .string => "string"
  | .array => "array"
  | .object => "object"
  | .unknown name => name

/-- The type that a word stands for. -/
def SchemaType.ofName (name : String) : SchemaType :=
  match name with
  | "null" => .null
  | "boolean" => .boolean
  | "integer" => .integer
  | "number" => .number
  | "string" => .string
  | "array" => .array
  | "object" => .object
  | _ => .unknown name

/-- `additionalProperties`: a boolean, or a schema for the further members. -/
inductive Additional (σ : Type) where
  | any (allowed : Bool)
  | schema (schema : σ)
  deriving Inhabited

/-- `exclusiveMinimum` and `exclusiveMaximum`: a flag on the bound beside it, or a bound. -/
inductive ExclusiveBound where
  | flag (exclusive : Bool)
  | bound (value : Binary64)
  deriving DecidableEq, Repr

/-- Which branch of a union a value belongs to is told by one of its members. -/
structure Discriminator where
  propertyName : String
  mapping : Members String
  deriving DecidableEq, Repr

/-- The keywords of a schema object. -/
structure Keywords (σ : Type) where
  type : Option SchemaType := none
  format : Option String := none
  title : Option String := none
  description : Option String := none
  nullable : Option Bool := none
  properties : List (String × σ) := []
  required : List String := []
  additionalProperties : Option (Additional σ) := none
  items : Option σ := none
  allOf : List σ := []
  oneOf : List σ := []
  anyOf : List σ := []
  discriminator : Option Discriminator := none
  enumeration : List Json := []
  constant : Option Json := none
  minimum : Option Binary64 := none
  maximum : Option Binary64 := none
  exclusiveMinimum : Option ExclusiveBound := none
  exclusiveMaximum : Option ExclusiveBound := none
  multipleOf : Option Binary64 := none
  minLength : Option Nat := none
  maxLength : Option Nat := none
  pattern : Option String := none
  deriving Inhabited

/-- A schema: a reference to one, a boolean that accepts everything or nothing, or an object. -/
inductive Schema where
  | ref (target : String)
  | bool (accepts : Bool)
  | inline (keywords : Keywords Schema)
  deriving Inhabited

namespace Keywords

variable {σ : Type}

/-- The branches of the union, those of `oneOf` before those of `anyOf`. -/
def unionBranches (k : Keywords σ) : List σ :=
  if k.oneOf.isEmpty then k.anyOf else k.oneOf

/-- The schema is put together from others. -/
def isComposite (k : Keywords σ) : Bool :=
  !k.allOf.isEmpty || !k.oneOf.isEmpty || !k.anyOf.isEmpty

/-- Null is allowed beside what the other keywords allow. -/
def isNullable (k : Keywords σ) : Bool := k.nullable.getD false

/-- No keyword says anything about the value. -/
def isUnconstrained (k : Keywords σ) : Bool :=
  k.type.isNone && !k.isComposite && k.properties.isEmpty && k.additionalProperties.isNone &&
    k.items.isNone && k.enumeration.isEmpty && k.constant.isNone && k.format.isNone

/-- An object by its type, or without a type by what it says about members. -/
def isObjectLike (k : Keywords σ) : Bool :=
  match k.type with
  | some .object => true
  | none => !k.properties.isEmpty || k.additionalProperties.isSome
  | some _ => false

/-- The values are listed, so they stand for themselves. -/
def isLiteral (k : Keywords σ) : Bool := !k.enumeration.isEmpty || k.constant.isSome

end Keywords

end OpenApi

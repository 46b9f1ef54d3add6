import OpenApi.Document
import OpenApi.Format.Registry

/-!
What the branches of a union without discriminator look like. A value of the union is told by its
JSON type which of them it can belong to.
-/

namespace OpenApi

/-- The branches of a union by the JSON types of their values. -/
structure UnionShapes where
  /-- the branches for objects -/
  objects : List Schema := []
  /-- the schemas of the items of the branches for arrays -/
  arrays : List Schema := []
  null : Bool := false
  number : Bool := false
  boolean : Bool := false
  /-- a string that no format replaces -/
  plainString : Bool := false
  /-- the formats of the branches for strings that have one -/
  formats : List Format := []
  /-- any value at all -/
  any : Bool := false
  deriving Inhabited

namespace UnionShapes

/-- The shapes with a branch for strings; listed strings stand for themselves, whatever their
format. -/
def addString (formats : Registry) (shapes : UnionShapes) (k : Keywords Schema) :
    Except CompileError UnionShapes :=
  match k.format with
  | none => .ok { shapes with plainString := true }
  | some name =>
    if k.isLiteral then .ok { shapes with plainString := true }
    else do
      let format ← formats.require name k
      pure { shapes with formats := shapes.formats ++ [format] }

/-- The shapes with a branch for objects. -/
def addObject (shapes : UnionShapes) (branch : Schema) : UnionShapes :=
  { shapes with objects := shapes.objects ++ [branch] }

/-- The shapes with a branch for arrays. -/
def addArray (shapes : UnionShapes) (items : Option Schema) : UnionShapes :=
  { shapes with arrays := shapes.arrays ++ [items.getD (.bool true)] }

/-- The shapes with the branch `branch`, whose keywords are `k`, references followed. -/
def addKeywords (formats : Registry) (shapes : UnionShapes) (branch : Schema)
    (k : Keywords Schema) : Except CompileError UnionShapes :=
  if k.isComposite then .error (.notImplemented .nestedComposition)
  else
    let shapes := { shapes with null := shapes.null || k.isNullable }
    match k.type with
    | some .object => .ok (shapes.addObject branch)
    | some .array => .ok (shapes.addArray k.items)
    | some .null => .ok { shapes with null := true }
    | some .integer | some .number => .ok { shapes with number := true }
    | some .boolean => .ok { shapes with boolean := true }
    | some .string => shapes.addString formats k
    | some (.unknown name) => .error (.unknownType name .value)
    | none =>
      if k.isObjectLike then .ok (shapes.addObject branch)
      else if k.items.isSome then .ok (shapes.addArray k.items)
      else if k.format.isSome then shapes.addString formats k
      else .ok { shapes with any := true }

/-- The shapes with one more branch. -/
def add (doc : Document) (formats : Registry) (shapes : UnionShapes) (branch : Schema) :
    Except CompileError UnionShapes := do
  match ← doc.deref .schema branch with
  | .bool true => pure { shapes with any := true }
  | .bool false => pure shapes
  | .inline k => shapes.addKeywords formats branch k

/-- The shapes of the branches of a union. -/
def ofBranches (doc : Document) (formats : Registry) (branches : List Schema) :
    Except CompileError UnionShapes :=
  branches.foldlM (add doc formats) {}

end UnionShapes

end OpenApi

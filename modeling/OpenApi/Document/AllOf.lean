import OpenApi.Document

/-!
The object schema that an `allOf` amounts to. Its parts are merged in order, each after its own
parts, and the members beside the `allOf` last: a later property replaces an earlier one of its
name, and a property is required if any part requires it.
-/

namespace OpenApi

/-- A merge under way: the object so far, and the references that have been followed. -/
structure Merge where
  object : Keywords Schema := { type := some .object }
  seen : List String := []
  deriving Inhabited

namespace Merge

/-- The merge with what a schema says itself about members. -/
def own (m : Merge) (k : Keywords Schema) : Merge :=
  { m with
    object := { m.object with
      properties := k.properties.foldl (fun known (name, schema) => Members.put known name schema)
        m.object.properties
      required := k.required.foldl
        (fun known name => if name ∈ known then known else known ++ [name]) m.object.required
      additionalProperties := k.additionalProperties <|> m.object.additionalProperties } }

/-- The merge after a reference to a part has been met; one that was met before makes a cycle. -/
def meet (m : Merge) : Schema → Except CompileError Merge
  | .ref target =>
    if target ∈ m.seen then .error (.malformed (.allOfCycle target))
    else .ok { m with seen := m.seen ++ [target] }
  | _ => .ok m

/-- Whether a schema can be a part of an `allOf`. -/
def isPart (k : Keywords Schema) : Bool :=
  (k.isObjectLike || !k.allOf.isEmpty || k.isUnconstrained) && k.unionBranches.isEmpty

end Merge

namespace Document

/-- The merge with one part of an `allOf`, where `merge` merges the schema of a part. -/
def mergePart (doc : Document) (merge : Merge → Keywords Schema → Except CompileError Merge)
    (m : Merge) (part : Schema) : Except CompileError Merge := do
  let m ← m.meet part
  match ← doc.deref .schema part with
  | .bool true => pure m
  | .bool false => throw (.notImplemented .allOfPart)
  | .inline k => if Merge.isPart k then merge m k else throw (.notImplemented .allOfPart)

/-- The merge with a schema and its parts, followed so many levels down. -/
def merge (doc : Document) : Nat → Merge → Keywords Schema → Except CompileError Merge
  | 0, _, _ => .error .tooDeep
  | depth + 1, m, k => do
    let m ← k.allOf.foldlM (doc.mergePart (doc.merge depth)) m
    pure (m.own k)

/-- The object schema that a schema with an `allOf` amounts to. -/
def mergeAllOf (doc : Document) (depth : Nat) (k : Keywords Schema) :
    Except CompileError (Keywords Schema) := do
  pure (← doc.merge depth {} k).object

end Document

end OpenApi

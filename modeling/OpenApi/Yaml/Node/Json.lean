import OpenApi.Yaml.Scalar.Value

/-!
Documents as JSON values. An alias is the value of what it stands for; a document in which this goes
too deep or is done too often has no value.
-/

namespace OpenApi.Yaml

/-- How deep sequences and mappings may be nested, aliases followed. -/
def depthLimit : Nat := 128

/-- A step that follows aliases; the state is how often this may still be done. -/
abbrev Follow (α : Type) := StateT Nat Option α

namespace Graph

/-- How often aliases may be followed. -/
def followLimit (g : Graph) : Nat := 100 * g.root.size

/-- The node that a node stands for. -/
def follow (g : Graph) : Node → Follow Node
  | .aliasOf number => fun left =>
    match left with
    | 0 => none
    | left + 1 => (g.target? number).map (·, left)
  | node => pure node

/-- The text of a scalar that is a key. -/
def keyText (g : Graph) (key : Node) : Follow String := do
  match ← g.follow key with
  | .scalar _ _ text => pure text
  | _ => failure

/-- The value of a node, at most `depth` deep. A key that comes again gives its member the later
value. -/
def value (g : Graph) (depth : Nat) (node : Node) : Follow Json := do
  match ← g.follow node, depth with
  | .scalar p style text, _ => (scalarValue? p.tag style text : Option Json)
  | .sequence p items, depth + 1 =>
    if p.tag.any isLocalTag then failure
    else return .array (← items.mapM (value g depth))
  | .mapping p pairs, depth + 1 =>
    if p.tag.any isLocalTag then failure
    else
      let members ← pairs.mapM fun (key, item) => do
        return (← g.keyText key, ← value g depth item)
      return .object (Members.ofList members)
  | _, _ => failure

/-- The value of a document. -/
def toJson? (g : Graph) : Option Json :=
  ((g.value depthLimit g.root).run g.followLimit).map (·.1)

end Graph

end OpenApi.Yaml

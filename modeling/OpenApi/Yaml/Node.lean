import OpenApi.Yaml.Token

/-!
The nodes of a YAML document. An alias stands for another node by a number that this node bears.
-/

namespace OpenApi.Yaml

/-- What may stand before a node: the number by which aliases stand for it, and a tag. -/
structure Properties where
  anchor : Option Nat := none
  tag : Option Octets := none
  deriving DecidableEq, Repr, Inhabited

/-- A node. -/
inductive Node where
  | aliasOf (number : Nat)
  | scalar (properties : Properties) (style : ScalarStyle) (text : String)
  | sequence (properties : Properties) (items : List Node)
  | mapping (properties : Properties) (pairs : List (Node × Node))
  deriving Inhabited

namespace Node

/-- The node where nothing is written. -/
def empty : Node := .scalar {} .plain ""

mutual

/-- The size of a node: one for a scalar or an alias, two for what holds other nodes, and the sizes
of those. -/
def size : Node → Nat
  | .aliasOf _ => 1
  | .scalar .. => 1
  | .sequence _ items => 2 + sizeItems items
  | .mapping _ pairs => 2 + sizePairs pairs

/-- The size of the items of a sequence. -/
def sizeItems : List Node → Nat
  | [] => 0
  | item :: rest => size item + sizeItems rest

/-- The size of the pairs of a mapping. -/
def sizePairs : List (Node × Node) → Nat
  | [] => 0
  | (key, value) :: rest => size key + size value + sizePairs rest

end

/-- A node under the number that it bears. -/
def numbered (p : Properties) (node : Node) : List (Nat × Node) :=
  (p.anchor.map fun number => (number, node)).toList

mutual

/-- The nodes that bear numbers, in the order in which they begin. -/
def anchored : Node → List (Nat × Node)
  | .aliasOf _ => []
  | .scalar p style text => numbered p (.scalar p style text)
  | .sequence p items => numbered p (.sequence p items) ++ anchoredItems items
  | .mapping p pairs => numbered p (.mapping p pairs) ++ anchoredPairs pairs

/-- The nodes that bear numbers in the items of a sequence. -/
def anchoredItems : List Node → List (Nat × Node)
  | [] => []
  | item :: rest => anchored item ++ anchoredItems rest

/-- The nodes that bear numbers in the pairs of a mapping. -/
def anchoredPairs : List (Node × Node) → List (Nat × Node)
  | [] => []
  | (key, value) :: rest => anchored key ++ anchored value ++ anchoredPairs rest

end

end Node

/-- A document: its outermost node, and the nodes that aliases stand for. -/
structure Graph where
  root : Node
  targets : List (Nat × Node)
  deriving Inhabited

/-- The document that a node holds. Of two nodes with one number, aliases stand for the one that
begins later. -/
def Graph.ofNode (root : Node) : Graph := { root, targets := root.anchored.reverse }

/-- The node that an alias stands for. -/
def Graph.target? (g : Graph) (number : Nat) : Option Node := g.targets.lookup number

end OpenApi.Yaml

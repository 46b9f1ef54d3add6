import OpenApi.Members
import OpenApi.Yaml.Node
import OpenApi.Yaml.Token.Lexer

/-!
Nodes from tokens. A reading takes tokens from the left; `fuel` bounds the depth of its calls, each
of which takes a token or is one of a few between two tokens.
-/

namespace OpenApi.Yaml

/-- What is left of the tokens of a document, and the numbers of the anchors so far. -/
structure Reading where
  tokens : List Token
  anchors : Members Nat := []
  deriving Inhabited

/-- A step of a reading; it can fail. -/
abbrev Read (α : Type) := StateT Reading Option α

namespace Read

/-- The token ahead. -/
def peek : Read (Option Token) := do return (← get).tokens.head?

/-- Takes a token. -/
def skip : Read Unit := modify fun r => { r with tokens := r.tokens.tail }

/-- A node, unless one of the tokens `stops` is ahead, where nothing is written. -/
def orEmpty (stops : List Token) (node : Read Node) : Read Node := do
  match ← peek with
  | none => node
  | some token => if token ∈ stops then pure .empty else node

/-- The number of the anchor `name`, which is the count of the names before; it takes the place of
another one of that name. -/
def declare (name : String) : Read Nat := do
  let number := (← get).anchors.length
  modify fun r => { r with anchors := r.anchors.put name number }
  return number

/-- An anchor, if there is one. -/
def anchor : Read (Option Nat) := do
  match ← peek with
  | some (.anchor name) =>
    skip
    return some (← declare name)
  | _ => return none

/-- A tag, if there is one. -/
def tag (handles : Handles) : Read (Option Octets) := do
  match ← peek with
  | some (.tag text) =>
    skip
    return some (← text.resolve? handles)
  | _ => return none

/-- The properties before a node: an anchor and a tag at most, in either order. -/
def properties (handles : Handles) : Read Properties := do
  match ← anchor with
  | some number => return { anchor := some number, tag := ← tag handles }
  | none =>
    let tag ← tag handles
    return { anchor := ← anchor, tag }

/-- The properties of a scalar; the tag that is only an exclamation mark says nothing. -/
def ofScalar (p : Properties) : Properties :=
  if p.tag = some (octetsOf ['!']) then { p with tag := none } else p

mutual

/-- A node. Blocks can be where `isBlock` holds; the items of a block sequence can be without a
beginning and an end of their own where `isBare` holds. -/
def node (handles : Handles) (isBlock isBare : Bool) : Nat → Read Node
  | 0 => failure
  | fuel + 1 => do
    match ← peek with
    | some (.aliasOf name) =>
      skip
      return .aliasOf (← (← get).anchors.get? name)
    | _ =>
      let p ← properties handles
      match ← peek, isBlock, isBare with
      | some .entry, _, true => return .sequence p (← bareItems handles fuel)
      | some (.scalar style text), _, _ =>
        skip
        return .scalar (ofScalar p) style text
      | some .flowSequence, _, _ =>
        skip
        return .sequence p (← flowItems handles true fuel)
      | some .flowMapping, _, _ =>
        skip
        return .mapping p (← flowPairs handles true fuel)
      | some .blockSequence, true, _ =>
        skip
        return .sequence p (← blockItems handles fuel)
      | some .blockMapping, true, _ =>
        skip
        return .mapping p (← blockPairs handles fuel)
      | _, _, _ =>
        if p.anchor.isNone && p.tag.isNone then failure else return .scalar p .plain ""

/-- The items of a block sequence, and its end. -/
def blockItems (handles : Handles) : Nat → Read (List Node)
  | 0 => failure
  | fuel + 1 => do
    match ← peek with
    | some .entry =>
      skip
      let item ← Read.orEmpty [.entry, .blockEnd] (node handles true false fuel)
      return item :: (← blockItems handles fuel)
    | some .blockEnd =>
      skip
      return []
    | _ => failure

/-- The items of a block sequence without an end of its own. -/
def bareItems (handles : Handles) : Nat → Read (List Node)
  | 0 => failure
  | fuel + 1 => do
    match ← peek with
    | some .entry =>
      skip
      let item ← Read.orEmpty [.entry, .key, .value, .blockEnd] (node handles true false fuel)
      return item :: (← bareItems handles fuel)
    | _ => return []

/-- The pairs of a block mapping, and its end. -/
def blockPairs (handles : Handles) : Nat → Read (List (Node × Node))
  | 0 => failure
  | fuel + 1 => do
    let half := Read.orEmpty [.key, .value, .blockEnd] (node handles true true fuel)
    match ← peek with
    | some .key =>
      skip
      let key ← half
      let value ← match ← peek with
        | some .value => do
          skip
          half
        | _ => pure .empty
      return (key, value) :: (← blockPairs handles fuel)
    | some .blockEnd =>
      skip
      return []
    | _ => failure

/-- The items of a flow sequence from the first one on or from a comma on, and its end. An item with
the indicator of a key is a mapping of one pair. -/
def flowItems (handles : Handles) (isFirst : Bool) : Nat → Read (List Node)
  | 0 => failure
  | fuel + 1 => do
    if (← peek) = some .flowSequenceEnd then
      skip
      return []
    else
      if !isFirst then
        if (← peek) = some .comma then skip else failure
      match ← peek with
      | some .flowSequenceEnd =>
        skip
        return []
      | some .key =>
        skip
        let pair ← flowPair handles fuel
        return .mapping {} [pair] :: (← flowItems handles false fuel)
      | _ =>
        let item ← node handles false false fuel
        return item :: (← flowItems handles false fuel)

/-- The pair that is an item of a flow sequence, behind the indicator of its key. Where no key is
written the token that shows it is taken too. -/
def flowPair (handles : Handles) : Nat → Read (Node × Node)
  | 0 => failure
  | fuel + 1 => do
    let key ← match ← peek with
      | some .value | some .comma | some .flowSequenceEnd => do
        skip
        pure .empty
      | _ => node handles false false fuel
    let value ← match ← peek with
      | some .value => do
        skip
        Read.orEmpty [.comma, .flowSequenceEnd] (node handles false false fuel)
      | _ => pure .empty
    return (key, value)

/-- The pairs of a flow mapping from the first one on or from a comma on, and its end. What has no
indicator of a key is a key without a value. -/
def flowPairs (handles : Handles) (isFirst : Bool) : Nat → Read (List (Node × Node))
  | 0 => failure
  | fuel + 1 => do
    if (← peek) = some .flowMappingEnd then
      skip
      return []
    else
      if !isFirst then
        if (← peek) = some .comma then skip else failure
      match ← peek with
      | some .flowMappingEnd =>
        skip
        return []
      | some .key =>
        skip
        let key ← Read.orEmpty [.value, .comma, .flowMappingEnd] (node handles false false fuel)
        let value ← match ← peek with
          | some .value => do
            skip
            Read.orEmpty [.comma, .flowMappingEnd] (node handles false false fuel)
          | _ => pure .empty
        return (key, value) :: (← flowPairs handles false fuel)
      | _ =>
        let key ← node handles false false fuel
        return (key, .empty) :: (← flowPairs handles false fuel)

end

/-- The directives ahead. -/
def directives : Nat → Read (List Directive)
  | 0 => failure
  | fuel + 1 => do
    match ← peek with
    | some (.directive d) =>
      skip
      return d :: (← directives fuel)
    | _ => return []

/-- The outermost node of a document. A document with directives begins with a mark; where it has
one, nothing more needs to be written. -/
def document (fuel : Nat) : Read Node := do
  match ← peek with
  | none => return .empty
  | some .documentStart | some (.directive _) =>
    let handles ← Handles.ofDirectives (← directives fuel)
    if (← peek) ≠ some .documentStart then failure
    else
      skip
      match ← peek with
      | none | some .documentStart | some .documentEnd | some (.directive _) => return .empty
      | _ => node handles true false fuel
  | some _ => node Handles.standard true false fuel

end Read

/-- The document that tokens write; `none` if they write none, or more than one. -/
def Graph.ofTokens? (tokens : List Token) : Option Graph := do
  let (root, rest) ← (Read.document (4 * tokens.length + 8)).run { tokens }
  if rest.tokens.all (· == .documentEnd) then pure (.ofNode root) else none

/-- The document that a text writes. -/
def Graph.ofText? (text : String) : Option Graph := do
  Graph.ofTokens? (← Token.ofText? text).toList

end OpenApi.Yaml

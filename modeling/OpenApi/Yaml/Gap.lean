import OpenApi.Yaml.Cursor

/-!
The gaps between the words of a scalar. Within a line a gap stands for itself; over lines it is
folded, so that one line break is a space and each further one a line break.
-/

namespace OpenApi.Yaml

/-- A gap between two words. -/
structure Gap where
  /-- the spaces and tabs, as long as no line break is among them -/
  spaces : List Char := []
  /-- the first line break -/
  first : Option (List Char) := none
  /-- the other line breaks -/
  others : List Char := []
  deriving DecidableEq, Repr, Inhabited

namespace Gap

/-- Whether the gap goes over lines. -/
def isFolded (g : Gap) : Bool := g.first.isSome

/-- What the gap stands for. -/
def text (g : Gap) : List Char :=
  match g.first with
  | none => g.spaces
  | some ['\n'] => if g.others.isEmpty then [' '] else g.others
  | some first => first ++ g.others

/-- The gap with one more line break. -/
def addBreak (g : Gap) (lineBreak : List Char) : Gap :=
  if g.isFolded then { g with others := g.others ++ lineBreak }
  else { g with first := some lineBreak }

/-- The gap with one more space or tab; at the beginning of a line it does not count. -/
def addSpace (g : Gap) (c : Char) : Gap :=
  if g.isFolded then g else { g with spaces := g.spaces ++ [c] }

/-- The gap that continues `g`, and the place after it. At the beginning of a line, a tab must not
stand before the column `indent`. -/
def read (indent : Nat) (g : Gap) (c : Cursor) : Nat → Option (Gap × Cursor)
  | 0 => none
  | fuel + 1 =>
    match c.break? with
    | some (lineBreak, next) => read indent (g.addBreak lineBreak) next fuel
    | none =>
      match c.rest with
      | [] => some (g, c)
      | ch :: _ =>
        if !isSpace ch then some (g, c)
        else if g.isFolded && ch == '\t' && decide (c.column < indent) then none
        else read indent (g.addSpace ch) (c.advance 1) fuel

/-- The gap ahead. -/
def ahead (indent : Nat) (g : Gap) (c : Cursor) : Option (Gap × Cursor) :=
  g.read indent c (c.left + 1)

end Gap

end OpenApi.Yaml

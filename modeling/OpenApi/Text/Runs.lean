/-!
Sets of characters written as runs of code points, the form in which the tables of this folder
keep the classes and case maps of the Unicode character database.
-/

namespace OpenApi.Text

/-- The code points `first`, `first + step`, … up to `last`. -/
abbrev Run := Nat × Nat × Nat

/-- Whether `code` is one of the code points of the run. -/
def Run.contains : Run → Nat → Bool
  | (first, last, step), code =>
    decide (first ≤ code) && decide (code ≤ last) && (code - first) % step == 0

/-- Whether `c` stands in one of the runs. -/
def inRuns (runs : List Run) (c : Char) : Bool :=
  runs.any (·.contains c.toNat)

end OpenApi.Text

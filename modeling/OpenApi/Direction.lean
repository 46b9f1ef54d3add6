/-!
The two directions in which values are converted.
-/

namespace OpenApi

/-- A direction in which values are converted. -/
inductive Direction where
  /-- from the wire to typed values -/
  | parse
  /-- from typed values to the wire -/
  | serialize
  deriving DecidableEq, Repr, Inhabited

/-- The word that the functions of a direction are named with. -/
def Direction.verb : Direction → String
  | .parse => "parse"
  | .serialize => "serialize"

end OpenApi

import OpenApi.Json.Writer
import OpenApi.Schema.Keywords

/-!
The checks that a schema asks for on a number or a string: the condition under which a value fails,
as an expression about the variable that holds it, and what is said then.
-/

namespace OpenApi

/-- A check: a value fails if the expression `failure` is true. -/
structure Check where
  failure : String
  message : String
  deriving DecidableEq, Repr

namespace Check

/-- Bounds are written without an exponent, and without a point if they are whole. -/
def boundStyle : NumberStyle where
  positional _ := true
  pointZero := false
  tie := .up

/-- The check of a lower bound, which a strict one excludes. -/
def above (strict : Bool) (value : String) (bound : Binary64) : Check :=
  let bound := boundStyle.text bound
  if strict then ⟨value ++ " <= " ++ bound, "must be > " ++ bound⟩
  else ⟨value ++ " < " ++ bound, "must be >= " ++ bound⟩

/-- The check of an upper bound. -/
def below (strict : Bool) (value : String) (bound : Binary64) : Check :=
  let bound := boundStyle.text bound
  if strict then ⟨value ++ " >= " ++ bound, "must be < " ++ bound⟩
  else ⟨value ++ " > " ++ bound, "must be <= " ++ bound⟩

/-- The check of a divisor: the quotient is a whole number as far as rounding lets one see. -/
def multiple (value : String) (divisor : Binary64) : Check :=
  let divisor := boundStyle.text divisor
  let quotient := value ++ " / " ++ divisor
  ⟨"Math.abs(" ++ quotient ++ " - Math.round(" ++ quotient ++ ")) > 1e-9",
    "must be a multiple of " ++ divisor⟩

end Check

/-- The bound that an exclusive bound is, and not a flag. -/
def ExclusiveBound.bound? : ExclusiveBound → Option Binary64
  | .bound value => some value
  | .flag _ => none

namespace Keywords

variable {σ : Type} (k : Keywords σ) (value : String)

/-- The checks of a number. A flag makes the bound beside it strict; an exclusive bound of its own
is a check of its own. -/
def numberChecks : List Check :=
  (k.minimum.map (Check.above (k.exclusiveMinimum == some (.flag true)) value)).toList ++
    ((k.exclusiveMinimum.bind (·.bound?)).map (Check.above true value)).toList ++
    (k.maximum.map (Check.below (k.exclusiveMaximum == some (.flag true)) value)).toList ++
    ((k.exclusiveMaximum.bind (·.bound?)).map (Check.below true value)).toList ++
    (k.multipleOf.map (Check.multiple value)).toList

/-- The checks of a string. -/
def stringChecks : List Check :=
  (k.minLength.map fun (n : Nat) =>
    ⟨value ++ ".length < " ++ toString n,
      "must be at least " ++ toString n ++ " characters"⟩).toList ++
  (k.maxLength.map fun (n : Nat) =>
    ⟨value ++ ".length > " ++ toString n,
      "must be at most " ++ toString n ++ " characters"⟩).toList ++
  (k.pattern.map fun pattern =>
    ⟨"!new RegExp(" ++ Text.quoted pattern ++ ").test(" ++ value ++ ")",
      "must match " ++ pattern⟩).toList

/-- The checks that a value is one of those listed. -/
def membershipChecks : List Check :=
  let allowed := (Json.array k.enumeration).text
  (if k.enumeration.isEmpty then [] else
    [⟨"!(" ++ allowed ++ ").includes(" ++ value ++ ")", "must be one of " ++ allowed⟩]) ++
  (k.constant.map fun constant =>
    ⟨value ++ " !== " ++ constant.text, "must be " ++ constant.text⟩).toList

end Keywords

end OpenApi

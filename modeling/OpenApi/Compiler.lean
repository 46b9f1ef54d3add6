import OpenApi.Context
import OpenApi.Document
import OpenApi.Format.Registry

/-!
The setting of the compilers: what stays the same while a file is written, what changes, and the
helpers of the runtime that all of them refer to.
-/

namespace OpenApi

/-- What stays the same while a file is written. -/
structure Compiler where
  document : Document
  formats : Registry
  /-- the alias under which the file imports the declared types, unless they stand in it -/
  qualifier : Option String := none

/-- Questions whether the schema behind a reference has anything to convert. -/
structure Probes where
  /-- the references that are being asked about, the outermost first -/
  opened : List String := []
  /-- the outermost of the open references that an answer leant on since the last one was opened -/
  floor : Option Nat := none
  /-- the answers that hold for good -/
  settled : List ((String × Direction) × Bool) := []
  deriving Repr, Inhabited

/-- The smaller of two places, where `none` is behind all places. -/
def outermost : Option Nat → Option Nat → Option Nat
  | none, j => j
  | i, none => i
  | some i, some j => some (min i j)

namespace Probes

/-- The question about a reference opens. -/
def opening (p : Probes) (reference : String) : Probes :=
  { p with opened := p.opened ++ [reference], floor := none }

/-- An answer leans on the question that is open at a place. -/
def leanOn (p : Probes) (place : Nat) : Probes :=
  { p with floor := outermost p.floor (some place) }

/-- Whether an answer holds for good, if the questions were `after` when it had been found: it says
that there is something to convert, or it leant on no question that is open in `p`. -/
def isFinal (p : Probes) (needed : Bool) (after : Probes) : Bool :=
  needed || match after.floor with
    | none => true
    | some place => decide (p.opened.length ≤ place)

/-- The question about a reference, which was opened in `p`, is answered. -/
def closing (p : Probes) (d : Direction) (reference : String) (needed : Bool) (after : Probes) :
    Probes where
  opened := p.opened
  floor := outermost p.floor after.floor
  settled :=
    if p.isFinal needed after then ((reference, d), needed) :: after.settled else after.settled

end Probes

/-- What changes while a file is written. -/
structure Progress where
  context : Context := {}
  probes : Probes := {}
  deriving Inhabited

/-- A step of writing a file. -/
abbrev Compile (α : Type) := StateT Progress (Except CompileError) α

namespace Compile

/-- A step that changes the usage. -/
def use (change : Usage → Usage) : Compile Unit :=
  modify fun s => { s with context := { s.context with usage := change s.context.usage } }

/-- A local name that no other local name of the file is equal to, if their hints are names without
a number at the end. -/
def fresh (hint : String) : Compile String := do
  let s ← get
  set { s with context := { s.context with next := s.context.next + 1 } }
  pure (hint ++ "_" ++ toString s.context.next)

/-- A helper of the runtime. -/
def runtime (symbol : String) : Compile String := do
  use fun u => { u with runtime := true }
  pure ("Runtime." ++ symbol)

/-- The statement that reports a malformed value; `message` is an expression. -/
def throwMalformed (location name message : String) : Compile String := do
  let error ← runtime "MalformedError"
  pure ("throw new " ++ error ++ "(" ++ Text.quoted location ++ ", " ++ Text.quoted name ++ ", " ++
    message ++ ");")

end Compile

namespace Compiler

/-- A declared name as the file writes it. -/
def qualify (c : Compiler) (name : String) : Compile String :=
  match c.qualifier with
  | none => pure name
  | some qualifier => do
    Compile.use fun u => { u with types := true }
    pure (qualifier ++ "." ++ name)

/-- The name of the type that is declared for the schema behind a reference. -/
def typeName (c : Compiler) (reference : String) : Compile String := do
  let name ← (c.document.refName reference).mapError CompileError.unresolved
  c.qualify name

/-- How deep schemas are followed, beginning with the given one. No reference is asked about while
it is open already. Between two references no schema comes twice, and branches for arrays are merged
no more often in a row than there are values, unless the conversion has no end; so what goes deeper
than this has none. -/
def depth (c : Compiler) (schema : Schema) : Nat :=
  Nat.pow (c.document.raw.size + schema.encode.size + 2) 8

end Compiler

end OpenApi

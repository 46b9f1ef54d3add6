import OpenApi.Compiler

/-!
Warnings. A computation keeps the warnings that it has issued even if it fails after that.
-/

namespace OpenApi

/-- What the user is told beside the result. -/
inductive Warning where
  /-- an operation has bodies of a content type that is not known -/
  | rawBody (operation contentType : String)
  /-- the handler type of an operation leaves out its `default` response -/
  | skippedDefault (operation : String)
  deriving DecidableEq, Repr

/-- The text of a warning. -/
def Warning.message : Warning → String
  | .rawBody operation contentType =>
    operation ++ ": unknown content type '" ++ contentType ++
      "', body is passed through as raw bytes"
  | .skippedDefault operation =>
    "skipping `default` response of " ++ operation ++ " in its handler type"

/-- A computation that issues warnings and may fail. -/
abbrev Report (α : Type) := ExceptT CompileError (StateM (List Warning)) α

/-- A step of writing a file that may issue warnings. -/
abbrev Write (α : Type) := StateT Progress (ExceptT CompileError (StateM (List Warning))) α

/-- Issues a warning. -/
def Report.warn (warning : Warning) : Report Unit := do
  let issued : List Warning ← getThe (List Warning)
  set (issued ++ [warning])

instance : MonadLift Compile Write where
  monadLift step := fun progress => ExceptT.mk fun issued => (step progress, issued)

end OpenApi

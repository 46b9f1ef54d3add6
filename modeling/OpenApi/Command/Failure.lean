import OpenApi.Config
import OpenApi.Document
import OpenApi.Text.Split
import OpenApi.Workspace

/-!
Failures of commands: what went wrong and, one after the other, what that is due to.
-/

namespace OpenApi

/-- A failure and what it is due to. -/
structure Failure where
  message : String
  causes : List String := []
  deriving DecidableEq, Repr, Inhabited

/-- The failure to read a document, and what it is due to. -/
def ParseError.chain (e : ParseError) : List String :=
  match e with
  | .mismatch cause => [e.message, cause.message]
  | _ => [e.message]

/-- The failure to follow a reference, and what it is due to. -/
def ResolveError.chain (e : ResolveError) : List String :=
  match e with
  | .undecodable _ _ cause => [e.message, cause.message]
  | _ => [e.message]

/-- The failure to compile, and what it is due to. -/
def CompileError.chain : CompileError → List String
  | .unresolved cause => cause.chain
  | e => [e.message]

namespace Failure

/-- The failure that is the first one of a chain, due to the others. -/
def ofChain : List String → Failure
  | [] => ⟨"", []⟩
  | message :: causes => { message, causes }

/-- Failures to deal with a file. -/
def ofFile (doing : String) (e : FileError) : Failure := ⟨doing, [e.message]⟩

/-- A cause with what stands before its first line and before the others. -/
def indented (first others cause : String) : String :=
  first ++ ("\n" ++ others).intercalate ((Text.split '\n' cause.toList).map String.ofList)

/-- A cause with its number, which is not long. -/
def numbered (number : Nat) (cause : String) : String :=
  let digits := toString number
  let margin := String.ofList (List.replicate (5 - digits.length) ' ')
  indented (margin ++ digits ++ ": ") "       " cause

/-- The causes as they are shown; several of them are counted from zero. -/
def causeLines : List String → List String
  | [] => []
  | [cause] => [indented "    " "    " cause]
  | causes => causes.mapIdx numbered

/-- The lines that show a failure. -/
def lines (f : Failure) : List String :=
  ("Error: " ++ f.message) ::
    if f.causes.isEmpty then [] else "" :: "Caused by:" :: causeLines f.causes

end Failure

end OpenApi

import OpenApi.Command.Run

/-!
The program.
-/

namespace OpenApi

/-- What an error of the system comes to. -/
def FileError.ofSystem : IO.Error → FileError
  | .noFileOrDirectory .. => .notFound
  | .alreadyExists .. => .occupied
  | .inappropriateType _ code _ => if code = 20 then .notDirectory else .isDirectory
  | e => .other e.toString

/-- An action on the files of the system. -/
def onSystem {α : Type} (action : IO α) : IO (Except FileError α) := do
  try return .ok (← action)
  catch e => return .error (.ofSystem e)

instance : Host IO where
  isThere path := do
    match ← onSystem (IO.FS.Handle.mk path .read) with
    | .ok _ => return true
    | .error _ => return false
  read path := onSystem (IO.FS.readFile path)
  write path content := onSystem (IO.FS.writeFile path content)
  makeDirectories path := onSystem (if path.isEmpty then pure () else IO.FS.createDirAll path)
  say line := IO.eprintln line

end OpenApi

/-- Runs the command that the arguments write. -/
def main (arguments : List String) : IO UInt32 := do
  match OpenApi.Command.ofWords? arguments with
  | some command => command.execute
  | none =>
    IO.eprintln OpenApi.Command.usage
    return 2

import OpenApi.Workspace

/-!
What commands need of the machine that they run on, and the machine that is nothing but a tree of
files and the lines said so far.
-/

namespace OpenApi

/-- A machine with files on it, and with someone to tell things to. -/
class Host (m : Type → Type) where
  isThere : String → m Bool
  read : String → m (Except FileError String)
  write : String → String → m (Except FileError Unit)
  /-- makes a directory and those that lead to it, as far as they are not there -/
  makeDirectories : String → m (Except FileError Unit)
  say : String → m Unit

/-- A tree of files and the lines said so far. -/
structure Machine where
  workspace : Workspace
  said : List String := []
  deriving DecidableEq, Repr, Inhabited

instance : Host (StateM Machine) where
  isThere path := do return (← get).workspace.isThere path
  read path := do return (← get).workspace.read path
  write path content := fun machine =>
    match machine.workspace.write path content with
    | .ok workspace => (.ok (), { machine with workspace })
    | .error e => (.error e, machine)
  makeDirectories path := fun machine =>
    let (result, workspace) := machine.workspace.makeDirectories path
    (result, { machine with workspace })
  say line := modify fun machine => { machine with said := machine.said ++ [line] }

end OpenApi

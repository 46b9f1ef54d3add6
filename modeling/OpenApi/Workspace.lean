import OpenApi.Workspace.Path

/-!
A tree of files and directories, and what can be done in it. Nothing is above its root, which is also
where paths begin.
-/

namespace OpenApi

/-- What a name in a directory stands for. -/
inductive Entry where
  | file (content : String)
  | directory
  deriving DecidableEq, Repr, Inhabited

/-- Why something cannot be done with a path. -/
inductive FileError where
  | notFound
  | occupied
  | notDirectory
  | isDirectory
  /-- the path holds a character that no name has -/
  | badName
  | other (text : String)
  deriving DecidableEq, Repr

/-- The text of a failure. -/
def FileError.message : FileError → String
  | .notFound => "No such file or directory (os error 2)"
  | .occupied => "File exists (os error 17)"
  | .notDirectory => "Not a directory (os error 20)"
  | .isDirectory => "Is a directory (os error 21)"
  | .badName => "file name contained an unexpected NUL byte"
  | .other text => text

/-- The entries below the root, by the names that lead to them. -/
abbrev Workspace := List (List String × Entry)

namespace Workspace

/-- The entry at a place. The root is always there. -/
def entry? (w : Workspace) (place : List String) : Option Entry :=
  if place.isEmpty then some .directory else w.lookup place

/-- The tree with an entry at a place. -/
def put : Workspace → List String → Entry → Workspace
  | [], place, entry => [(place, entry)]
  | (other, old) :: rest, place, entry =>
    if other = place then (place, entry) :: rest else (other, old) :: put rest place entry

/-- The place that steps lead to. Each of them leads on from a directory; the last one need not lead
to an entry. -/
def walk (w : Workspace) (here : List String) : List String → Except FileError (List String)
  | [] => .ok here
  | step :: rest =>
    match w.entry? here with
    | none => .error .notFound
    | some (.file _) => .error .notDirectory
    | some .directory =>
      if step = "" ∨ step = "." then walk w here rest
      else if step = ".." then walk w here.dropLast rest
      else walk w (here ++ [step]) rest

/-- The place that a path leads to. -/
def locate (w : Workspace) (path : String) : Except FileError (List String) :=
  if path.isEmpty then .error .notFound
  else if path.toList.contains '\x00' then .error .badName
  else w.walk [] (Path.steps path)

/-- Whether a path leads to an entry. -/
def isThere (w : Workspace) (path : String) : Bool :=
  match w.locate path with
  | .ok place => (w.entry? place).isSome
  | .error _ => false

/-- The content of a file. -/
def read (w : Workspace) (path : String) : Except FileError String := do
  match w.entry? (← w.locate path) with
  | none => throw .notFound
  | some .directory => throw .isDirectory
  | some (.file content) => pure content

/-- Writes a file, which need not be there; its directory has to be. -/
def write (w : Workspace) (path content : String) : Except FileError Workspace := do
  let place ← w.locate path
  match w.entry? place with
  | some .directory => throw .isDirectory
  | _ => pure (w.put place (.file content))

/-- Makes a directory where nothing is. -/
def makeDirectory (w : Workspace) (steps : List String) : Except FileError Workspace := do
  let place ← w.walk [] steps
  match w.entry? place with
  | some _ => throw .occupied
  | none => pure (w.put place .directory)

/-- Whether steps lead to a directory. -/
def isDirectory (w : Workspace) (steps : List String) : Bool :=
  match w.walk [] steps with
  | .ok place => w.entry? place == some .directory
  | .error _ => false

/-- What comes of an attempt to make a directory. It need not succeed where one is. -/
def settle (w : Workspace) (steps : List String) (made : Except FileError Workspace) :
    Except FileError Unit × Workspace :=
  match made with
  | .ok w => (.ok (), w)
  | .error e => if w.isDirectory steps then (.ok (), w) else (.error e, w)

/-- Makes a directory and those that lead to it. The steps are given from the last one. -/
def makeAll (w : Workspace) : List String → Except FileError Unit × Workspace
  | [] => (.ok (), w)
  | last :: before =>
    let steps := (last :: before).reverse
    match w.makeDirectory steps with
    | .error .notFound =>
      match makeAll w before with
      | (.ok (), w) => w.settle steps (w.makeDirectory steps)
      | failed => failed
    | made => w.settle steps made

/-- Makes the directory at a path and those that lead to it, as far as they are not there. -/
def makeDirectories (w : Workspace) (path : String) : Except FileError Unit × Workspace :=
  if path.toList.contains '\x00' then (.error .badName, w)
  else w.makeAll (Path.steps path).reverse

end Workspace

end OpenApi

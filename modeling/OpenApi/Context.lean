import OpenApi.Members

/-!
What the compilers remember while they write a file: the next number for local names, and what the
code written so far needs from elsewhere. The imports at the head of the file are read off the
latter.
-/

namespace OpenApi

/-- What the code of a file refers to. -/
structure Usage where
  runtime : Bool := false
  types : Bool := false
  queryString : Bool := false
  /-- modules with symbols from them, both in order and each once -/
  imports : Members (List String) := []
  deriving DecidableEq, Repr, Inhabited

namespace Usage

/-- A sorted list with one more element, unless it is there already. -/
def insertSorted (symbol : String) : List String → List String
  | [] => [symbol]
  | other :: rest =>
    if symbol = other then other :: rest
    else if symbol < other then symbol :: other :: rest
    else other :: insertSorted symbol rest

/-- The imports with `symbols` from `module`. -/
def insertModule (module : String) (symbols : List String) :
    Members (List String) → Members (List String)
  | [] => [(module, symbols.foldr insertSorted [])]
  | (other, known) :: rest =>
    if module = other then (other, symbols.foldr insertSorted known) :: rest
    else if module < other then
      (module, symbols.foldr insertSorted []) :: (other, known) :: rest
    else (other, known) :: insertModule module symbols rest

/-- The usage with the given imports. -/
def withImports (u : Usage) (imports : Members (List String)) : Usage :=
  { u with
    imports := imports.foldl (fun known (module, symbols) => insertModule module symbols known)
      u.imports }

end Usage

/-- The state of a file that is being written. -/
structure Context where
  next : Nat := 0
  usage : Usage := {}
  deriving DecidableEq, Repr, Inhabited

end OpenApi

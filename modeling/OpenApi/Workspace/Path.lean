import OpenApi.Text.Split

/-!
Paths as text: names between slashes, where a dot leads nowhere and two dots lead back.
-/

namespace OpenApi.Path

/-- The steps of a path. Those without a name are steps too, since they lead on from a directory. -/
def steps (path : String) : List String := (Text.split '/' path.toList).map String.ofList

/-- The path to `name` in a directory. -/
def join (directory name : String) : String :=
  if directory.isEmpty || directory.toList.getLast? == some '/' then directory ++ name
  else directory ++ "/" ++ name

/-- What is left of a path that is given from its end, without the slashes and the dots there. What
it begins with stays. -/
def trimReversed : List Char → List Char
  | ['/'] => ['/']
  | '/' :: rest => trimReversed rest
  | '.' :: '/' :: rest => trimReversed ('/' :: rest)
  | path => path

/-- A path without the slashes and the dots at its end. -/
def trimmed (path : String) : String :=
  String.ofList (trimReversed path.toList.reverse).reverse

/-- What follows the last dot in the last name of a path, unless the name begins with that dot. -/
def extension? (path : String) : Option String :=
  let name := ((steps path).getLast?.getD "").toList
  let ending := name.reverse.takeWhile (· != '.')
  if ending.length + 1 < name.length then some (String.ofList ending.reverse) else none

example : trimmed "a/./" = "a" ∧ trimmed "./" = "." ∧ trimmed "/." = "/" ∧ trimmed ".." = ".." := by
  decide

example : extension? "a/b.c.json" = some "json" ∧ extension? ".json" = none ∧
    extension? "a.b/c" = none := by decide

end OpenApi.Path

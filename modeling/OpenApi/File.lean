import OpenApi.Report

/-!
Generated files. A file begins with the imports that its body turned out to need.
-/

namespace OpenApi

/-- A generated file. -/
structure File where
  path : String
  content : Code
  deriving DecidableEq, Repr, Inhabited

namespace File

/-- The line that imports a whole module under an alias. -/
def importAll (name module : String) : String :=
  "import * as " ++ name ++ " from " ++ Text.quoted module ++ ";"

/-- The line that imports symbols of a module. -/
def importSymbols (module : String) (symbols : List String) : String :=
  "import \x7b " ++ ", ".intercalate symbols ++ " \x7d from " ++ Text.quoted module ++ ";"

/-- The lines at the head of a file; `siblings` are the generated files that it needs, under their
aliases. -/
def headLines (usage : Usage) (runtimeModule : String) (siblings : List (String × String)) :
    List String :=
  ["// Generated by oac. Do not edit."] ++
    (if usage.runtime then [importAll "Runtime" runtimeModule] else []) ++
    (if usage.types then [importAll "Types" "./types"] else []) ++
    siblings.map (fun (name, module) => importAll name module) ++
    (if usage.queryString then ["import qs from \"qs\";"] else []) ++
    usage.imports.map (fun (module, symbols) => importSymbols module symbols)

/-- The head of a file, with an empty line after it. -/
def head (usage : Usage) (runtimeModule : String) (siblings : List (String × String)) : Code :=
  .tagged ("\n".intercalate (headLines usage runtimeModule siblings) ++ "\n\n") .preamble

/-- The content of a file with the given body. -/
def contentOf (usage : Usage) (runtimeModule : String) (siblings : List (String × String))
    (body : Code) : Code :=
  head usage runtimeModule siblings ++ body

end File

end OpenApi

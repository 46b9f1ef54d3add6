/-!
The commands of the program, and how they are given.
-/

namespace OpenApi

/-- A command. -/
inductive Command where
  /-- generates files for the document `input` in the directory `output`, both of which the
  configuration says otherwise -/
  | generate (input output : Option String) (annotate : Bool)
  /-- checks that files could be generated -/
  | validate (input : String)
  /-- writes a configuration -/
  | init (force : Bool)
  deriving DecidableEq, Repr, Inhabited

namespace Command

/-- An argument of a command. -/
inductive Argument where
  | input (path : String)
  | output (path : String)
  | annotate
  | force
  deriving DecidableEq, Repr, Inhabited

/-- What is written behind the name of an option in one word with it. -/
def attached? (short long argument : String) : Option String :=
  if argument.startsWith (long ++ "=") then some (argument.drop (long.length + 1)).toString
  else if argument.startsWith (short ++ "=") then some (argument.drop (short.length + 1)).toString
  else if argument.startsWith short then some (argument.drop short.length).toString
  else none

/-- Whether a word of its own can be the value of an option. -/
def isValue (word : String) : Bool := word == "-" || !word.startsWith "-"

/-- The arguments that words write. -/
def arguments? : List String → Option (List Argument)
  | [] => some []
  | ["--"] => some []
  | word :: rest =>
    let valued (argument : String → Argument) : Option (List Argument) :=
      match rest with
      | [] => none
      | value :: rest =>
        if value.isEmpty || !isValue value then none
        else (arguments? rest).map (argument value :: ·)
    if word = "--annotate" then (arguments? rest).map (.annotate :: ·)
    else if word = "--force" then (arguments? rest).map (.force :: ·)
    else if word = "-i" ∨ word = "--input" then valued .input
    else if word = "-o" ∨ word = "--output" then valued .output
    else
      match attached? "-i" "--input" word, attached? "-o" "--output" word with
      | some "", _ | _, some "" => none
      | some value, _ => (arguments? rest).map (.input value :: ·)
      | none, some value => (arguments? rest).map (.output value :: ·)
      | none, none => none

/-- The only item of a list, if there is one; `none` if there are several. -/
def atMostOne? {α : Type} : List α → Option (Option α)
  | [] => some none
  | [a] => some (some a)
  | _ => none

/-- The command that words write; `none` if they write none. Every option is given once at most. -/
def ofWords? (words : List String) : Option Command := do
  let name ← words.head?
  let arguments ← arguments? words.tail
  let input ← atMostOne? (arguments.filterMap fun
    | .input path => some path
    | _ => none)
  let output ← atMostOne? (arguments.filterMap fun
    | .output path => some path
    | _ => none)
  let annotate ← atMostOne? (arguments.filter (· == .annotate))
  let force ← atMostOne? (arguments.filter (· == .force))
  match name, input, output, annotate, force with
  | "generate", _, _, _, none => some (.generate input output annotate.isSome)
  | "validate", some input, none, none, none => some (.validate input)
  | "init", none, none, none, _ => some (.init force.isSome)
  | _, _, _, _, _ => none

/-- How commands are given. -/
def usage : String :=
  "usage: oac generate [-i FILE] [-o DIRECTORY] [--annotate]\n" ++
  "       oac validate -i FILE\n" ++
  "       oac init [--force]"

end Command

end OpenApi

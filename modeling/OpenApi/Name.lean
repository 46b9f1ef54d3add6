import OpenApi.Text.Letters
import OpenApi.Text.Casing
import OpenApi.Text.Natural

/-!
Names in generated code. A name of the document falls into words, and the words are joined in one
of two casings; or it is kept as it stands, with an underscore for every character that an
identifier cannot hold.
-/

namespace OpenApi

open Text

namespace Name

/-- What the letters before a character have been, as far as the next word boundary hangs on it. -/
inductive Run where
  /-- no cased letter since the last boundary -/
  | open
  | small
  | capital
  deriving DecidableEq, Repr

/-- The run that `c` continues or starts. -/
def Run.next (run : Run) (c : Char) : Run :=
  if isLowercase c then .small else if isUppercase c then .capital else run

/-- The words of a text without separators; `word` is the part read since the last boundary. A
boundary stands between a small letter and a capital, and before the last capital of a run of them
that a small letter follows. -/
def splitWord (run : Run) (word : List Char) : List Char → List (List Char)
  | [] => []
  | [c] => [word ++ [c]]
  | c :: d :: rest =>
    if run.next c = .small ∧ isUppercase d then
      (word ++ [c]) :: splitWord .open [] (d :: rest)
    else if run = .capital ∧ isUppercase c ∧ isLowercase d then
      word :: splitWord .open [c] (d :: rest)
    else
      splitWord (run.next c) (word ++ [c]) (d :: rest)

/-- The maximal runs of letters and numbers in a text, the first of which begins with `part`. -/
def parts (part : List Char) : List Char → List (List Char)
  | [] => if part.isEmpty then [] else [part]
  | c :: rest =>
    if isAlphanumeric c then parts (part ++ [c]) rest
    else if part.isEmpty then parts [] rest
    else part :: parts [] rest

/-- The words of a name; a name without letters and numbers is called `unnamed`. -/
def words (name : String) : List (List Char) :=
  match (parts [] name.toList).flatMap (splitWord .open []) with
  | [] => ["unnamed".toList]
  | found => found

/-- A word in small letters. A sigma that ends it takes its final form. -/
def smallWord : List Char → List Char
  | [] => []
  | [c] => if c = 'Σ' then ['ς'] else small c
  | c :: rest => small c ++ smallWord rest

/-- A word in small letters after a capital. -/
def capitalWord : List Char → List Char
  | [] => []
  | c :: rest => capital c ++ smallWord rest

/-- An identifier cannot start with a digit: an underscore goes before it. -/
def escapeDigit (name : List Char) : List Char :=
  match name with
  | c :: _ => if isDigit c then '_' :: name else name
  | [] => []

/-- Every word of the name with a capital. -/
def pascal (name : String) : String :=
  String.ofList (escapeDigit ((words name).flatMap capitalWord))

/-- Every word of the name but the first with a capital. -/
def camel (name : String) : String :=
  match words name with
  | [] => ""
  | first :: rest => String.ofList (escapeDigit (smallWord first ++ rest.flatMap capitalWord))

/-- Characters that identifiers are made of, as far as generated code uses them. -/
def isIdentifierPart (c : Char) : Bool := c.isAlphanum || c == '_' || c == '$'

/-- Characters that an identifier can start with. -/
def isIdentifierStart (c : Char) : Bool := c.isAlpha || c == '_' || c == '$'

/-- The name as an identifier in its own casing: an underscore for each character that cannot
stand in one, and one before a leading digit. -/
def identifier (name : String) : String :=
  match name.toList with
  | [] => "_"
  | chars => String.ofList (escapeDigit (chars.map fun c => if isIdentifierPart c then c else '_'))

/-- The name with a capital first character, the rest as it is. -/
def capitalized (name : String) : String :=
  match name.toList with
  | [] => ""
  | c :: rest => String.ofList (capital c ++ rest)

example : pascal "pet-store" = "PetStore" ∧ camel "HTTPServer2go" = "httpServer2go" := by
  decide +kernel

example : pascal "3dModel" = "_3dModel" ∧ identifier "v1.Pet" = "v1_Pet" := by decide +kernel

end Name

end OpenApi

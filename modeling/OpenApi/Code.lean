import OpenApi.Name
import OpenApi.Text.Quoted

/-!
Generated code that remembers where each part of it comes from. A piece of code is a list of
fragments; neighbours of one origin are one fragment, and no fragment is empty.
-/

namespace OpenApi

/-- Where a fragment of generated code comes from. -/
inductive Origin where
  /-- the compiler -/
  | site
  /-- the imports at the head of a file -/
  | preamble
  /-- the declaration of a string format -/
  | stringFormat (name : String)
  deriving DecidableEq, Repr, Inhabited

/-- The words for an origin. -/
def Origin.text : Origin → String
  | .site => "site"
  | .preamble => "preamble"
  | .stringFormat name => "string-format:" ++ name

/-- Text of one origin. -/
structure Fragment where
  text : String
  origin : Origin
  deriving DecidableEq, Repr, Inhabited

/-- Generated code. -/
structure Code where
  fragments : List Fragment := []
  deriving DecidableEq, Repr, Inhabited

namespace Code

/-- No code. -/
def empty : Code := {}

/-- Fragments with one more at the end: it is dropped if it is empty, and it is joined to the last
one if that has the same origin. -/
def extend : List Fragment → Fragment → List Fragment
  | [], f => if f.text.isEmpty then [] else [f]
  | [last], f =>
    if f.text.isEmpty then [last]
    else if last.origin = f.origin then [⟨last.text ++ f.text, last.origin⟩]
    else [last, f]
  | g :: h :: rest, f => g :: extend (h :: rest) f

/-- Text of the given origin. -/
def tagged (text : String) (origin : Origin) : Code := ⟨extend [] ⟨text, origin⟩⟩

/-- Text of the compiler. -/
def site (text : String) : Code := tagged text .site

@[simp] theorem tagged_site (text : String) : tagged text .site = site text := rfl

instance : Coe String Code := ⟨site⟩

/-- One piece of code after the other; every fragment keeps its origin. -/
def append (a b : Code) : Code := ⟨b.fragments.foldl extend a.fragments⟩

instance : Append Code := ⟨append⟩

/-- Text at the end, of the compiler unless it has another origin. -/
def push (code : Code) (text : String) (origin : Origin := .site) : Code :=
  code ++ tagged text origin

/-- Pieces of code one after the other. -/
def cat (parts : List Code) : Code := parts.foldl append empty

/-- Pieces of code with a separator between them, which is the compiler's unless it has another
origin. -/
def join (separator : String) (parts : List Code) (origin : Origin := .site) : Code :=
  match parts with
  | [] => empty
  | first :: rest => rest.foldl (fun out part => out ++ tagged separator origin ++ part) first

/-- There is no code. -/
def isEmpty (code : Code) : Bool := code.fragments.isEmpty

/-- The text of the code. -/
def render (code : Code) : String := String.join (code.fragments.map (·.text))

/-- The text of the code with a comment before every fragment that names its origin. -/
def annotated (code : Code) : String :=
  String.join (code.fragments.map fun f => "/* " ++ f.origin.text ++ " */" ++ f.text)

/-- Characters of expressions that stand for themselves beside any operator: paths such as
`value["id"].items`, and literals. -/
def isSimpleChar (c : Char) : Bool :=
  Name.isIdentifierPart c || c == '.' || c == '[' || c == ']' || c == '"'

/-- Expressions that need no parentheses. -/
def isSimple (expression : String) : Bool :=
  !expression.toList.isEmpty && expression.toList.all isSimpleChar

/-- The code in parentheses, which are the compiler's unless they have another origin. -/
def parens (code : Code) (origin : Origin := .site) : Code :=
  cat [tagged "(" origin, code, tagged ")" origin]

/-- The code in brackets. -/
def brackets (code : Code) : Code := cat ["[", code, "]"]

/-- The code between braces, as an object literal or an object type has it. -/
def braced (code : Code) : Code := cat ["\x7b ", code, " \x7d"]

/-- The code in parentheses, unless it is a simple expression. -/
def parenthesized (code : Code) (origin : Origin := .site) : Code :=
  if isSimple code.render then code else code.parens origin

/-- The code as the body of an arrow function: an object literal goes into parentheses, so that it
is not read as a block. -/
def arrowBody (code : Code) (origin : Origin := .site) : Code :=
  match code.render.toList with
  | '\x7b' :: _ => code.parens origin
  | _ => code

end Code

/-- A string literal in generated code. -/
def quoted (text : String) : Code := Code.site (Text.quoted text)

end OpenApi

import OpenApi.Code

/-!
Statements of generated functions. A block is a chain of clauses, such as `if … else if … else …`,
and every clause has a head and a body; the text of a statement is indented by two blanks for each
block around it, and every brace that a block opens is closed by it.
-/

namespace OpenApi

/-- A statement. -/
inductive Statement where
  | line (code : Code)
  | block (head : Code) (body : List Statement) (others : List (Code × List Statement))
  deriving Inhabited

namespace Statement

/-- A block of one clause. -/
def only (head : Code) (body : List Statement) : Statement := .block head body []

/-- A line inside so many blocks. -/
def indented (depth : Nat) (code : Code) : Code :=
  Code.cat [String.join (List.replicate depth "  "), code, "\n"]

mutual

/-- The text of a statement inside `depth` blocks. -/
def code (depth : Nat) : Statement → Code
  | .line code => indented depth code
  | .block head body others =>
    indented depth (head ++ " \x7b") ++ codeOfAll (depth + 1) body ++ codeOfOthers depth others

/-- The text of the clauses of a block after the first one, up to its end. -/
def codeOfOthers (depth : Nat) : List (Code × List Statement) → Code
  | [] => indented depth "\x7d"
  | (head, body) :: rest =>
    indented depth (Code.cat ["\x7d ", head, " \x7b"]) ++ codeOfAll (depth + 1) body ++
      codeOfOthers depth rest

/-- The text of statements one after the other. -/
def codeOfAll (depth : Nat) : List Statement → Code
  | [] => Code.empty
  | statement :: rest => code depth statement ++ codeOfAll depth rest

end

/-- The chain of conditional clauses that runs the first one whose condition holds, and `otherwise`
if none does. -/
def firstOf (clauses : List (Code × List Statement)) (otherwise : List Statement) :
    List Statement :=
  match clauses with
  | [] => otherwise
  | (condition, body) :: rest =>
    [.block ("if " ++ condition.parens) body
      (rest.map (fun (condition, body) => ("else if " ++ condition.parens, body)) ++
        [(("else" : Code), otherwise)])]

/-- A statement that runs if a condition holds. -/
def conditional (condition : Code) (body : List Statement) : Statement :=
  only ("if " ++ condition.parens) body

/-- The declaration of a constant. -/
def constant (name : String) (value : Code) : Statement :=
  .line (Code.cat ["const ", name, " = ", value, ";"])

/-- The declaration of a constant of a given type. -/
def typedConstant (name type : String) (value : Code) : Statement :=
  .line (Code.cat ["const ", name, ": ", type, " = ", value, ";"])

end Statement

end OpenApi

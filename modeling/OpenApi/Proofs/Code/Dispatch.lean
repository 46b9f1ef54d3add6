import OpenApi.Compiler.Conversion
import OpenApi.Proofs.Files.Results

/-!
Generated statements that choose by a value. A `Chain` asks what the value is, question by question, and
a `Switch` compares a tag with labels. Both are data here: they have a text, which is what the compilers
write, and they say what the text does. An expression is known by its code only, and whether it works
(has a value, and does not throw) is a parameter.
-/

namespace OpenApi

/-! ## Questions -/

/-- What a value is while generated code runs. A value that was read from JSON is one of the first
six. -/
inductive ValueKind where
  | object
  | array
  | null
  | number
  | boolean
  | string
  | undefined
  | bigint
  | symbol
  | function
  deriving DecidableEq, Repr

/-- The answer of `typeof`, which knows neither arrays nor null. -/
def ValueKind.typeName : ValueKind → String
  | .object | .array | .null => "object"
  | .number => "number"
  | .boolean => "boolean"
  | .string => "string"
  | .undefined => "undefined"
  | .bigint => "bigint"
  | .symbol => "symbol"
  | .function => "function"

/-- A question what a value is. -/
inductive Test where
  | isRecord
  | isArray
  | isNull
  | hasType (name : String)
  deriving DecidableEq, Repr

namespace Test

/-- The question about a value. -/
def code (value : Code) : Test → Code
  | isRecord => value.isRecord
  | isArray => Code.cat ["Array.isArray", value.parens]
  | isNull => value ++ " === null"
  | hasType name => value.hasType name

/-- Whether the answer is yes for values of a kind. -/
def passes (kind : ValueKind) : Test → Bool
  | isRecord => kind.typeName == "object" && kind != .null && kind != .array
  | isArray => kind == .array
  | isNull => kind == .null
  | hasType name => kind.typeName == name

end Test

/-- The question that unions ask to find the values of a kind. -/
def ValueKind.test? : ValueKind → Option Test
  | .object => some .isRecord
  | .array => some .isArray
  | .null => some .isNull
  | .number => some (.hasType "number")
  | .boolean => some (.hasType "boolean")
  | .string => some (.hasType "string")
  | .undefined | .bigint | .symbol | .function => none

/-- The question for a kind tells it from all others. -/
theorem ValueKind.passes_test {kind other : ValueKind} {test : Test} (h : kind.test? = some test) :
    test.passes other = decide (other = kind) := by
  cases kind <;> cases h <;> cases other <;> decide

theorem ValueKind.eq_of_test? {kind other : ValueKind} {test : Test} (h : kind.test? = some test)
    (h' : other.test? = some test) : kind = other := by
  have hpasses : test.passes kind = true := by rw [passes_test h, decide_eq_true rfl]
  rwa [passes_test h', decide_eq_true_iff] at hpasses

/-! ## Chains -/

/-- A statement that does something for the values that pass a test. -/
inductive Clause where
  /-- returns the result -/
  | returns (test : Test) (result : Code)
  /-- returns the first of the attempts that works, or else the result if there is one -/
  | tries (test : Test) (attempts : List Code) (result : Option Code)

namespace Clause

/-- The test of the statement. -/
def test : Clause → Test
  | returns test _ => test
  | tries test _ _ => test

/-- Returns the expression if it works. -/
def attempt (expression : Code) : Code :=
  Code.cat ["try ", expression.returned.braced, " catch \x7b\x7d"]

/-- The text of the statement. -/
def code (value : Code) : Clause → Code
  | returns test result => (test.code value).returnedIf result
  | tries test attempts result =>
    Code.cat ["if ", (test.code value).parens, " ",
      (Code.join " " (attempts.map attempt ++ (result.map Code.returned).toList)).braced]

/-- What the statement returns for a value that passes its test, if anything. -/
def answer? (works : Code → Bool) : Clause → Option Code
  | returns _ result => some result
  | tries _ attempts result => (attempts.find? works).or result

end Clause

/-- Statements of which the first that returns anything decides; the last one decides where none of
them does. -/
structure Chain where
  clauses : List Clause
  last : Code

namespace Chain

/-- The text of the statements, as one expression. -/
def code (chain : Chain) (value : Code) : Code :=
  (Code.join " " (chain.clauses.map (Clause.code value) ++ [chain.last])).immediate

/-- The first statement whose test values of a kind pass. -/
def first? (chain : Chain) (kind : ValueKind) : Option Clause :=
  chain.clauses.find? (·.test.passes kind)

/-- What is returned for a value of a kind, or nothing if it gets to the last statement. -/
def answer? (chain : Chain) (works : Code → Bool) (kind : ValueKind) : Option Code :=
  chain.clauses.findSome? fun clause =>
    if clause.test.passes kind then clause.answer? works else none

/-- A statement for each of the kinds, in this order. -/
def ofKinds (kinds : List ValueKind) (clause : ValueKind → Clause) (last : Code) : Chain :=
  ⟨kinds.map clause, last⟩

section

variable {kinds : List ValueKind} {clause : ValueKind → Clause} {last : Code}

/-- A value passes the test for its own kind and no other. -/
theorem first?_ofKinds (htest : ∀ kind ∈ kinds, kind.test? = some (clause kind).test)
    (kind : ValueKind) :
    (ofKinds kinds clause last).first? kind = if kind ∈ kinds then some (clause kind) else none := by
  show (kinds.map clause).find? _ = _
  induction kinds with
  | nil => rfl
  | cons first rest ih =>
    obtain ⟨hfirst, hrest⟩ := List.forall_mem_cons.1 htest
    rw [List.map_cons, List.find?_cons, ValueKind.passes_test hfirst]
    by_cases heq : kind = first
    · simp [heq]
    · simp [heq, ih hrest]

theorem answer?_ofKinds (htest : ∀ kind ∈ kinds, kind.test? = some (clause kind).test)
    (works : Code → Bool) (kind : ValueKind) :
    (ofKinds kinds clause last).answer? works kind =
      if kind ∈ kinds then (clause kind).answer? works else none := by
  show (kinds.map clause).findSome? _ = _
  induction kinds with
  | nil => rfl
  | cons first rest ih =>
    obtain ⟨hfirst, hrest⟩ := List.forall_mem_cons.1 htest
    rw [List.map_cons, List.findSome?_cons, ValueKind.passes_test hfirst, ih hrest]
    by_cases heq : kind = first
    · -- a kind that comes twice does not get another answer at the second time
      subst heq
      cases (clause kind).answer? works <;> simp
    · simp [heq]

end

end Chain

/-! ## Switches -/

/-- A choice by a tag. -/
structure Switch where
  /-- the expression that the tag is the value of -/
  subject : Code
  /-- the labels, with the result for each -/
  arms : List (String × Code)
  /-- the statement for tags that are no label -/
  default : Code

namespace Switch

/-- The text of the choice, as one expression. -/
def code (choice : Switch) : Code :=
  let arms := choice.arms.map fun (tag, result) =>
    Code.cat ["case ", quoted tag, ": ", result.returned]
  let body := Code.join " " (arms ++ [Code.cat ["default: ", choice.default]])
  (Code.cat ["switch ", choice.subject.parens, " ", body.braced]).immediate

/-- What is returned for a tag, that is, at its first label; or nothing if it gets to the default. -/
def answer? (choice : Switch) (tag : String) : Option Code :=
  (choice.arms.find? (·.1 == tag)).map (·.2)

end Switch

/-! ## Values that nothing is done for -/

/-- The statement that reports a malformed value; `message` is an expression. -/
def Code.malformed (location name message : String) : Code :=
  Code.site ("throw new Runtime.MalformedError(" ++ Text.quoted location ++ ", " ++
    Text.quoted name ++ ", " ++ message ++ ");")

theorem Compile.throwMalformed_code (location name message : String) :
    Ensures (throwMalformed location name message) fun failure =>
      Code.site failure = .malformed location name message :=
  (throwMalformed_eq location name message).mono fun _ => congrArg Code.site

end OpenApi

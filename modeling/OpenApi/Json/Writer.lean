import OpenApi.Json.Value
import OpenApi.Number.Notation
import OpenApi.Text.Quoted

/-!
The text of a JSON value: on one line, without blanks, members in their order.
-/

namespace OpenApi.Json

/-- Numbers keep a point when they are whole, and go over to an exponent when the leading digit
stands further than five places behind the point or sixteen before it. -/
def numberStyle : NumberStyle where
  positional e := decide (-5 ≤ e) && decide (e < 16)
  pointZero := true
  tie := .even

/-- The text of a number. -/
def numberText : JsonNumber → String
  | .integer value => toString value
  | .binary value => numberStyle.text value

mutual

/-- The text of a value. -/
def text : Json → String
  | .null => "null"
  | .bool true => "true"
  | .bool false => "false"
  | .number value => numberText value
  | .string value => Text.quoted value
  | .array items => "[" ++ itemsText items ++ "]"
  | .object members => "\x7b" ++ membersText members ++ "\x7d"

/-- The items of an array, commas between them. -/
def itemsText : List Json → String
  | [] => ""
  | [item] => text item
  | item :: rest => text item ++ "," ++ itemsText rest

/-- The members of an object, commas between them. -/
def membersText : List (String × Json) → String
  | [] => ""
  | [(name, value)] => Text.quoted name ++ ":" ++ text value
  | (name, value) :: rest => Text.quoted name ++ ":" ++ text value ++ "," ++ membersText rest

end

example : text (.object [("a", .array [.number (.integer 1), .null])]) =
    "\x7b\"a\":[1,null]\x7d" := by decide +kernel

end OpenApi.Json

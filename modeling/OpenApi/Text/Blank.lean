/-!
White space: which characters it is, what is left of a text without it at either end, and the
lines of a text.
-/

namespace OpenApi.Text

/-- Characters with the property White_Space. -/
def isBlank (c : Char) : Bool :=
  let n := c.toNat
  (0x9 ≤ n && n ≤ 0xd) || n == 0x20 || n == 0x85 || n == 0xa0 || n == 0x1680 ||
    (0x2000 ≤ n && n ≤ 0x200a) || n == 0x2028 || n == 0x2029 || n == 0x202f || n == 0x205f ||
    n == 0x3000

/-- Characters of ASCII that are seen are no white space. -/
theorem isBlank_eq_false {c : Char} (h : 0x20 < c.toNat) (h' : c.toNat < 0x7f) : isBlank c = false := by
  simp only [isBlank, Bool.or_eq_false_iff, Bool.and_eq_false_iff, decide_eq_false_iff_not,
    beq_eq_false_iff_ne]
  omega

/-- `text` without the white space before and after it. -/
def trimChars (text : List Char) : List Char :=
  ((text.dropWhile isBlank).reverse.dropWhile isBlank).reverse

/-- `text` without the white space before and after it. -/
def trim (text : String) : String :=
  String.ofList (trimChars text.toList)

/-- A line that a line feed ended, without the carriage return before it. -/
def withoutReturn (line : List Char) : List Char :=
  if line.getLast? = some '\r' then line.dropLast else line

/-- The lines of a text. Each ends with a line feed, or with a carriage return and a line feed;
the last one may end with the text instead. -/
def linesFrom (line : List Char) : List Char → List (List Char)
  | [] => if line.isEmpty then [] else [line]
  | c :: rest =>
    if c = '\n' then withoutReturn line :: linesFrom [] rest else linesFrom (line ++ [c]) rest

/-- The lines of a text, without what ends them. -/
def lines (text : String) : List String :=
  (linesFrom [] text.toList).map String.ofList

example : lines "a\r\n\nb" = ["a", "", "b"] := by decide

example : trim " \ta b\u00a0" = "a b" := by decide

end OpenApi.Text

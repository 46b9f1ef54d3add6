/-!
Natural numbers as texts write them. In the keys and pointers of a document, a number is a nonempty
run of decimal digits, with a plus sign before it if the writer likes, and with as many leading
zeros.
-/

namespace OpenApi.Text

/-- A decimal digit, and no digit of another script. -/
def isDigit (c : Char) : Bool := '0' ≤ c && c ≤ '9'

/-- What a decimal digit counts for. -/
def digitValue (c : Char) : Nat := c.toNat - '0'.toNat

/-- The number that decimal digits write. -/
def ofDigits (digits : List Char) : Nat :=
  digits.foldl (fun n c => 10 * n + digitValue c) 0

/-- What a hexadecimal digit counts for. -/
def hexValue? (c : Char) : Option Nat :=
  if '0' ≤ c ∧ c ≤ '9' then some (c.toNat - '0'.toNat)
  else if 'a' ≤ c ∧ c ≤ 'f' then some (c.toNat - 'a'.toNat + 10)
  else if 'A' ≤ c ∧ c ≤ 'F' then some (c.toNat - 'A'.toNat + 10)
  else none

/-- The natural number that a text writes, as far as it is at most `limit`. -/
def natural? (limit : Nat) (text : String) : Option Nat :=
  let digits := match text.toList with
    | '+' :: rest => rest
    | chars => chars
  if !digits.isEmpty && digits.all isDigit && ofDigits digits ≤ limit then
    some (ofDigits digits)
  else
    none

/-- The largest number of sixteen bits. -/
def maxWord16 : Nat := 0xffff

/-- The largest number of sixty-four bits. -/
def maxWord64 : Nat := 0xffffffffffffffff

example : natural? maxWord16 "+0200" = some 200 ∧ natural? maxWord16 "65536" = none ∧
    natural? maxWord16 "-1" = none ∧ natural? maxWord16 "+" = none := by decide

end OpenApi.Text

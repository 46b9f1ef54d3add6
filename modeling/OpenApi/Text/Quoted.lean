/-!
String literals: a text between double quotes in which a quote, a backslash and the control
characters below the space are escaped and everything else stands as it is.
-/

namespace OpenApi.Text

/-- The last four digits of `n` in base sixteen. -/
def fourHexDigits (n : Nat) : List Char :=
  let digit (d : Nat) : Char := Char.ofNat (if d < 10 then 0x30 + d else 0x57 + d)
  [digit (n / 4096 % 16), digit (n / 256 % 16), digit (n / 16 % 16), digit (n % 16)]

/-- One character inside a string literal. -/
def quotedChar (c : Char) : List Char :=
  if c = '"' then ['\\', '"']
  else if c = '\\' then ['\\', '\\']
  else if c.toNat = 0x8 then ['\\', 'b']
  else if c.toNat = 0xc then ['\\', 'f']
  else if c = '\n' then ['\\', 'n']
  else if c = '\r' then ['\\', 'r']
  else if c = '\t' then ['\\', 't']
  else if c.toNat < 0x20 then ['\\', 'u'] ++ fourHexDigits c.toNat
  else [c]

/-- The string literal of `text`. -/
def quoted (text : String) : String :=
  String.ofList ('"' :: (text.toList.flatMap quotedChar ++ ['"']))

example : quoted "a\"b\\\n\x01" = "\"a\\\"b\\\\\\n\\u0001\"" := by decide

end OpenApi.Text

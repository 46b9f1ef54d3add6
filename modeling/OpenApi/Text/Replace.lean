/-!
Replacement of a pair of characters wherever the pair stands, from left to right.
-/

namespace OpenApi.Text

/-- Every `a` directly followed by `b` becomes `text`; replaced text is not looked at again. -/
def replacePair (a b : Char) (text : List Char) : List Char → List Char
  | [] => []
  | [c] => [c]
  | c :: d :: rest =>
    if c = a ∧ d = b then text ++ replacePair a b text rest
    else c :: replacePair a b text (d :: rest)

example : replacePair '*' '/' ['*', '\\', '/'] "a*//*/".toList = "a*\\//*\\/".toList := by decide

end OpenApi.Text

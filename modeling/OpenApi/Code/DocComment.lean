import OpenApi.Code
import OpenApi.Operation
import OpenApi.Text.Blank
import OpenApi.Text.Replace

/-!
The comment above the function of an operation. No text of the document can end it: where the two
characters that do so meet, a backslash goes between them.
-/

namespace OpenApi

/-- The lines of a text without the blanks around it, none of which ends a comment. -/
def Text.harmlessLines (text : String) : List String :=
  (Text.lines (Text.trim text)).map fun line =>
    String.ofList (Text.replacePair '*' '/' ['*', '\\', '/'] line.toList)

/-- What the comment on an operation says: its summary and its description with an empty line
between them, and whether it is deprecated. -/
def Operation.commentLines (o : Operation) : List String :=
  let paragraphs := [o.summary, o.description].filterMap id
  let said := paragraphs.foldl
    (fun lines text =>
      lines ++ (if lines.isEmpty then [] else [""]) ++ Text.harmlessLines text) []
  said ++ if o.deprecated = some true then ["@deprecated"] else []

/-- The comment above the function of an operation, if there is anything to say. -/
def Operation.docComment (o : Operation) : String :=
  match o.commentLines with
  | [] => ""
  | lines =>
    "/**\n" ++
      String.join (lines.map fun line =>
        if line.isEmpty then " *\n" else " * " ++ line ++ "\n") ++
      " */\n"

end OpenApi

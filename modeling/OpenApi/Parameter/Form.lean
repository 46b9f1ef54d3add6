import OpenApi.Document
import OpenApi.Parameter

/-!
What the value of a parameter is, once for the three things that are generated for it: its type, the
code that packs it and the code that unpacks it.
-/

namespace OpenApi

/-- What the value of a parameter is. -/
inductive ParameterForm where
  /-- whether the parameter is there -/
  | flag
  /-- a value of the schema, laid out by the style of the parameter -/
  | styled (schema : Schema)
  /-- a JSON text -/
  | json (schema : Option Schema)
  /-- a text as it stands -/
  | text
  deriving Inhabited

namespace Parameter

/-- Whether a flag is declared in the only way that makes sense. -/
def isProperFlag (p : Parameter) : Bool :=
  p.location == .query && !p.required && p.allowEmptyValue && p.schema.isNone && p.content.isEmpty

/-- What the value of a parameter is. -/
def form (p : Parameter) : Except CompileError ParameterForm :=
  if p.isFlag then
    if p.isProperFlag then .ok .flag else .error (.malformed (.flag p.name))
  else
    match p.content, p.schema with
    | [], none => .error (.malformed (.noSchema p.location p.name))
    | [], some schema => .ok (.styled schema)
    | [(contentType, media)], _ =>
      if contentType = "application/json" then .ok (.json media.schema)
      else if contentType = "text/plain" then .ok .text
      else .error (.notImplemented (.contentType contentType p.location p.name))
    | _, _ => .error (.malformed (.contentCount p.location p.name))

end Parameter

/-- The shape of a value that a style lays out. -/
inductive ValueShape where
  | scalar (schema : Keywords Schema)
  | array (items : Keywords Schema)
  | object (schema : Keywords Schema)
  deriving Inhabited

namespace Document

/-- The keywords of a schema, references followed; a parameter cannot have a schema that accepts
nothing. -/
def keywordsOf (doc : Document) (schema : Schema) : Except CompileError (Keywords Schema) := do
  match ← doc.deref .schema schema with
  | .inline k => pure k
  | .bool true => pure {}
  | .bool false => throw (.malformed .falseParameter)

/-- The shape of the values of a schema. -/
def shapeOf (doc : Document) (schema : Schema) : Except CompileError ValueShape := do
  let k ← doc.keywordsOf schema
  match k.type, k.items with
  | some .array, none => pure (.array {})
  | some .array, some items | none, some items => pure (.array (← doc.keywordsOf items))
  | _, _ => pure (if k.isObjectLike then .object k else .scalar k)

end Document

end OpenApi

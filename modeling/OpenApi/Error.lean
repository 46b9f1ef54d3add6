import OpenApi.Json.Pointer
import OpenApi.Parameter
import OpenApi.Schema.Encode

/-!
Why a document cannot be compiled. Each constructor is one cause; the wording is in one place.
-/

namespace OpenApi

/-- What a document may say and the compiler has no code for. -/
inductive Unsupported where
  | allOfPart
  | inlineBranch
  | objectBranches
  | nestedComposition
  | noInstanceTest (format : String)
  | compositeParameter
  | nestedParameter
  | unpacking (location : Location) (name type : String)
  | style (style : Style) (location : Location) (name : String)
  | contentType (essence : String) (location : Location) (name : String)
  /-- the form style where a single text is needed; `place` says of what -/
  | formStyle (place name : String)
  | defaultResponse (operation : String)
  | responseStatus (status operation : String)
  deriving DecidableEq, Repr

/-- What makes no sense in a document. -/
inductive Malformed where
  | allOfCycle (reference : String)
  | referenceCycle (kind : String) (chain : List String)
  | falseParameter
  | noSchema (location : Location) (name : String)
  | contentCount (location : Location) (name : String)
  | flag (name : String)
  | noOperationId (method path : String)
  deriving DecidableEq, Repr

/-- Where a word that is no JSON type was met. -/
inductive TypePlace where
  | schema (schema : Keywords Schema)
  | parameter
  | value

/-- Why a document cannot be compiled. -/
inductive CompileError where
  | notImplemented (feature : Unsupported)
  | malformed (fault : Malformed)
  | unknownFormat (format : String) (schema : Keywords Schema)
  | unknownType (name : String) (place : TypePlace)
  | unresolved (cause : ResolveError)
  /-- the schemas are nested deeper than the compiler follows them -/
  | tooDeep

/-- The words for what there is no code for. -/
def Unsupported.text : Unsupported → String
  | .allOfPart => "allOf part that is not an object schema"
  | .inlineBranch => "inline branch in a discriminated union"
  | .objectBranches => "several object branches in a union without discriminator"
  | .nestedComposition => "composition nested in a union without discriminator"
  | .noInstanceTest format =>
    "serializing format '" ++ format ++ "' inside a union without an instanceof test"
  | .compositeParameter => "composite schema as a parameter value"
  | .nestedParameter => "nested array or object inside a parameter value"
  | .unpacking location name type =>
    "unpacking " ++ location.name ++ " parameter '" ++ name ++ "' of type " ++ type
  | .style found location name =>
    found.title ++ " style for " ++ location.name ++ " parameter '" ++ name ++ "'"
  | .contentType found location name =>
    "content type '" ++ found ++ "' for " ++ location.name ++ " parameter '" ++ name ++ "'"
  | .formStyle place name => "form style for " ++ place ++ " '" ++ name ++ "'"
  | .defaultResponse operation => "`default` response of " ++ operation
  | .responseStatus status operation =>
    "response status '" ++ status ++ "' of " ++ operation

/-- The words for what makes no sense. -/
def Malformed.text : Malformed → String
  | .allOfCycle reference => "allOf cycle through " ++ reference
  | .referenceCycle kind chain =>
    kind ++ " reference cycle through " ++ " -> ".intercalate chain
  | .falseParameter => "parameter schema is `false`"
  | .noSchema location name =>
    location.name ++ " parameter '" ++ name ++ "' has neither schema nor content"
  | .contentCount location name =>
    location.name ++ " parameter '" ++ name ++ "' must declare exactly one content type"
  | .flag name =>
    "x-isFlag parameter '" ++ name ++
      "' must be an optional query parameter with allowEmptyValue and no schema"
  | .noOperationId method path => method ++ " " ++ path ++ " has no operationId"

/-- The text of a schema, as messages quote it. -/
def Keywords.text (k : Keywords Schema) : String := (Json.object (Schema.encodeKeywords k)).text

/-- The words for a word that is no JSON type. -/
def TypePlace.text (name : String) : TypePlace → String
  | .schema holder => "unknown type '" ++ name ++ "' in " ++ holder.text
  | .parameter => "unknown type '" ++ name ++ "' in a parameter"
  | .value => "unknown type '" ++ name ++ "'"

/-- The text of a failure to compile. -/
def CompileError.message : CompileError → String
  | .notImplemented feature => "not implemented: " ++ feature.text
  | .malformed fault => "malformed input: " ++ fault.text
  | .unknownFormat format schema =>
    "not implemented: string format '" ++ format ++ "' is not registered (schema: " ++
      schema.text ++ ")"
  | .unknownType name place => "unhandled schema: " ++ place.text name
  | .unresolved cause => cause.message
  | .tooDeep => "not implemented: schemas nested beyond the depth limit"

end OpenApi

import OpenApi.Text.Blank

/-!
Content types: patterns and what they match, and the codec for the bodies of each type.
-/

namespace OpenApi

namespace ContentType

/-- The type and subtype without the parameters behind them. -/
def essence (contentType : String) : String :=
  String.ofList (Text.trimChars (contentType.toList.takeWhile (· ≠ ';')))

/-- A type and, behind the first slash, a subtype. -/
def halves (essence : String) : List Char × Option (List Char) :=
  match essence.toList.dropWhile (· ≠ '/') with
  | [] => (essence.toList, none)
  | _ :: subtype => (essence.toList.takeWhile (· ≠ '/'), some subtype)

/-- Whether half a pattern matches half a content type: as a wildcard, or up to case. -/
def halfMatches (pattern target : List Char) : Bool :=
  pattern == ['*'] || pattern.map Char.toLower == target.map Char.toLower

/-- Whether a pattern matches a content type: half by half, and both have a subtype or neither
has. Parameters do not count, and a wildcard of the content type is a word like any other. -/
def matchesPattern (pattern target : String) : Bool :=
  match halves (essence pattern), halves (essence target) with
  | (type, some subtype), (targetType, some targetSubtype) =>
    halfMatches type targetType && halfMatches subtype targetSubtype
  | (type, none), (targetType, none) => halfMatches type targetType
  | _, _ => false

/-- The first of the patterns that matches. -/
def firstMatch? (patterns : List String) (target : String) : Option String :=
  patterns.find? (matchesPattern · target)

end ContentType

/-- How a body is read and written. -/
inductive Codec where
  | json
  | form
  | text
  | binary
  /-- a content type that is not known: the bytes are passed on -/
  | raw
  deriving DecidableEq, Repr, Inhabited

/-- The codec for bodies of a content type. -/
def Codec.ofContentType (contentType : String) : Codec :=
  let essence := String.ofList ((ContentType.essence contentType).toList.map Char.toLower)
  if essence = "application/json" then .json
  else if essence = "application/x-www-form-urlencoded" then .form
  else if essence = "application/binary" ∨ essence = "application/octet-stream" then .binary
  else if ContentType.matchesPattern "text/*" essence then .text
  else .raw

end OpenApi

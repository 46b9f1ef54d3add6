import OpenApi.Yaml.Directive
import OpenApi.Yaml.Scalar

/-!
The tokens of a YAML text. Blocks have tokens of their own for their beginning and their end, though
nothing but indentation is written there, and so has a key that is written without its indicator.
-/

namespace OpenApi.Yaml

/-- A token. -/
inductive Token where
  | directive (directive : Directive)
  | documentStart
  | documentEnd
  | blockSequence
  | blockMapping
  /-- the end of a block sequence or mapping -/
  | blockEnd
  | flowSequence
  | flowSequenceEnd
  | flowMapping
  | flowMappingEnd
  /-- what stands before an item of a block sequence -/
  | entry
  /-- what stands between the items of a flow collection -/
  | comma
  | key
  | value
  | anchor (name : String)
  | aliasOf (name : String)
  | tag (tag : TagText)
  | scalar (style : ScalarStyle) (text : String)
  deriving DecidableEq, Repr, Inhabited

end OpenApi.Yaml

import ApiRouter.Yaml.Property

set_option autoImplicit false

/-! # Tokens

What a YAML text consists of once indentation is made explicit: the beginning and the end of every
block and every key are tokens of their own. -/

namespace ApiRouter.Yaml

inductive Token where
  | directive (d : Directive)
  | documentStart
  | documentEnd
  | streamEnd
  | blockSequenceStart
  | blockMappingStart
  | blockEnd
  | flowSequenceStart
  | flowSequenceEnd
  | flowMappingStart
  | flowMappingEnd
  | blockEntry
  | flowEntry
  | key
  | value
  | anchor (name : String)
  | alias (name : String)
  | tag (t : TagText)
  | scalar (plain : Bool) (text : String)
  deriving DecidableEq, Repr

/-- The tokens of a text as far as they can be told, and why there are no more of them. -/
structure Tokens where
  tokens : List Token
  stop : Option Error

end ApiRouter.Yaml

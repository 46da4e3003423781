import ApiRouter.Error

set_option autoImplicit false

/-! # What can be wrong with a YAML text -/

namespace ApiRouter.Yaml

/-- An offence against the rules of YAML. -/
inductive Cause where
  | unprintable
  | strayCharacter
  | missingColon
  | misplacedEntry
  | misplacedKey
  | misplacedValue
  | badDirective
  | badAnchor
  | badTag
  | badBlockHeader
  | badEscape
  | unterminatedQuote
  | documentMarkInQuote
  | repeatedDirective
  | otherVersion
  | undefinedHandle
  | missingDocumentStart
  | missingContent
  | unfinishedBlock
  | unfinishedFlow
  | undefinedAlias
  | repeatedAnchor
  | severalDocuments
  | unknownTag
  | otherKind
  | compoundKey
  | badMerge
  | badBinary
  | badPair
  deriving DecidableEq, Repr

/-- The wording of an offence. -/
def Cause.message : Cause → String
  | .unprintable => "special characters are not allowed"
  | .strayCharacter => "found a character that cannot start any token"
  | .missingColon => "could not find the ':' of a key"
  | .misplacedEntry => "sequence entries are not allowed here"
  | .misplacedKey => "mapping keys are not allowed here"
  | .misplacedValue => "mapping values are not allowed here"
  | .badDirective => "found a malformed directive"
  | .badAnchor => "found a malformed anchor or alias"
  | .badTag => "found a malformed tag"
  | .badBlockHeader => "found a malformed block scalar header"
  | .badEscape => "found an unknown escape"
  | .unterminatedQuote => "found the end of the text in a quoted scalar"
  | .documentMarkInQuote => "found a document mark in a quoted scalar"
  | .repeatedDirective => "found a directive twice"
  | .otherVersion => "found a document of another version"
  | .undefinedHandle => "found an undefined tag handle"
  | .missingDocumentStart => "expected the start of a document"
  | .missingContent => "expected the content of a node"
  | .unfinishedBlock => "expected the end of a block"
  | .unfinishedFlow => "expected ',' or a closing bracket"
  | .undefinedAlias => "found an undefined alias"
  | .repeatedAnchor => "found an anchor twice"
  | .severalDocuments => "expected a single document"
  | .unknownTag => "found a tag without a meaning"
  | .otherKind => "found a node of another kind than its tag"
  | .compoundKey => "found a key with parts"
  | .badMerge => "expected a mapping or a list of mappings for merging"
  | .badBinary => "found bytes that are not written in base 64"
  | .badPair => "expected mappings of one entry"

/-- Why a text gives no value. -/
inductive Error where
  | malformed (cause : Cause)
  /-- The text is well-formed, but a value in it cannot be made. -/
  | defect (cause : Defect)
  deriving DecidableEq, Repr

/-- Refuses a text. -/
def refuse {α : Type} (cause : Cause) : Except Error α :=
  .error (.malformed cause)

end ApiRouter.Yaml

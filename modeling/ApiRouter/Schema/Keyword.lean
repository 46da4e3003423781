import ApiRouter.Schema.Keyword.Unevaluated

set_option autoImplicit false

/-! # The keywords of the dialects

Which keywords a dialect has, and what each of them means there. -/

namespace ApiRouter.Schema.Keyword

/-- Keywords that mean the same in every dialect. -/
def common? : String → Option Keyword
  | "$ref" => some reference
  | "additionalProperties" => some additionalProperties
  | "enum" => some enumeration
  | "maxItems" => some maxItems
  | "maxLength" => some maxLength
  | "minItems" => some minItems
  | "minLength" => some minLength
  | "pattern" => some pattern
  | "patternProperties" => some patternProperties
  | "uniqueItems" => some uniqueItems
  | _ => none

/-- Keywords of draft 3 alone. -/
def ofDraft3? : String → Option Keyword
  | "additionalItems" => some additionalItems
  | "dependencies" => some dependenciesOfDraft3
  | "disallow" => some disallow
  | "divisibleBy" => some multipleOf
  | "extends" => some extension
  | "items" => some itemsOfEarlyDrafts
  | "maximum" => some maximumOrLess
  | "minimum" => some minimumOrMore
  | "properties" => some propertiesWithRequired
  | "type" => some typesOfDraft3
  | _ => none

/-- Keywords from draft 4 on. -/
def sinceDraft4? : String → Option Keyword
  | "allOf" => some allOf
  | "anyOf" => some anyOf
  | "maxProperties" => some maxProperties
  | "minProperties" => some minProperties
  | "multipleOf" => some multipleOf
  | "not" => some negation
  | "oneOf" => some oneOf
  | "properties" => some properties
  | "required" => some required
  | "type" => some types
  | _ => none

/-- Keywords that draft 4 understands in its own way. -/
def ofDraft4? : String → Option Keyword
  | "additionalItems" => some additionalItems
  | "dependencies" => some dependencies
  | "items" => some itemsOfEarlyDrafts
  | "maximum" => some maximumOrLess
  | "minimum" => some minimumOrMore
  | _ => none

/-- Keywords from draft 6 on. -/
def sinceDraft6? : String → Option Keyword
  | "const" => some constant
  | "exclusiveMaximum" => some exclusiveMaximum
  | "exclusiveMinimum" => some exclusiveMinimum
  | "maximum" => some maximum
  | "minimum" => some minimum
  | "propertyNames" => some propertyNames
  | _ => none

/-- Keywords of drafts 6 and 7. -/
def ofDraft6? : String → Option Keyword
  | "additionalItems" => some additionalItems
  | "contains" => some containsOne
  | "dependencies" => some dependencies
  | "items" => some itemsOfMiddleDrafts
  | _ => none

/-- Keywords from draft 2019-09 on. -/
def sinceDraft2019? : String → Option Keyword
  | "contains" => some containsSome
  | "dependentRequired" => some dependentRequired
  | "dependentSchemas" => some dependentSchemas
  | "if" => some condition
  | "unevaluatedItems" => some unevaluatedItems
  | "unevaluatedProperties" => some unevaluatedProperties
  | _ => none

/-- Keywords of draft 2019-09 alone. -/
def ofDraft2019? : String → Option Keyword
  | "$recursiveRef" => some recursiveReference
  | "additionalItems" => some additionalItems
  | "items" => some itemsOfMiddleDrafts
  | _ => none

/-- Keywords of draft 2020-12 alone. -/
def ofDraft2020? : String → Option Keyword
  | "$dynamicRef" => some reference
  | "items" => some itemsAfterFirst
  | "prefixItems" => some prefixItems
  | _ => none

/-- The groups of keywords that a dialect has. -/
def groups : Dialect → List (String → Option Keyword)
  | .draft3 => [common?, ofDraft3?]
  | .draft4 => [common?, sinceDraft4?, ofDraft4?]
  | .draft6 => [common?, sinceDraft4?, sinceDraft6?, ofDraft6?]
  | .draft7 =>
    [common?, sinceDraft4?, sinceDraft6?, ofDraft6?,
      fun name => if name == "if" then some condition else none]
  | .draft2019 => [common?, sinceDraft4?, sinceDraft6?, sinceDraft2019?, ofDraft2019?]
  | .draft2020 => [common?, sinceDraft4?, sinceDraft6?, sinceDraft2019?, ofDraft2020?]

/-- The keyword of a name in a dialect. -/
def find? (d : Dialect) (name : Scalar) : Option Keyword :=
  match name with
  | .text s => (groups d).findSome? fun group => group s
  | _ => none

end ApiRouter.Schema.Keyword

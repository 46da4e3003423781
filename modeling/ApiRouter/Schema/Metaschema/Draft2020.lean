import ApiRouter.Schema.Metaschema.Basic

set_option autoImplicit false

/-! # The schema of schemas: draft 2020-12

What a schema of draft 2020-12 looks like, vocabulary by vocabulary, as schemas of that draft. -/

namespace ApiRouter.Schema.Metaschema.Draft2020

/-- A reference to the schema that all vocabularies together make up. -/
def itself : Value := .object [("$dynamicRef", .text "#meta")]

/-- The keywords that identify and refer to schemas. -/
def core : Value :=
  .object [
    ("$schema", .text "https://json-schema.org/draft/2020-12/schema"),
    ("$id", .text "https://json-schema.org/draft/2020-12/meta/core"),
    ("$dynamicAnchor", .text "meta"),
    ("title", .text "Core vocabulary meta-schema"),
    ("type", .texts ["object", "boolean"]),
    ("properties", .object [
      ("$id", .object [
        ("$ref", .text "#/$defs/uriReferenceString"),
        ("pattern", .text "^[^#]*#?$")]),
      ("$schema", reference "#/$defs/uriString"),
      ("$ref", reference "#/$defs/uriReferenceString"),
      ("$anchor", reference "#/$defs/anchorString"),
      ("$dynamicRef", reference "#/$defs/uriReferenceString"),
      ("$dynamicAnchor", reference "#/$defs/anchorString"),
      ("$vocabulary", .object [
        ("type", .text "object"),
        ("propertyNames", reference "#/$defs/uriString"),
        ("additionalProperties", ofType "boolean")]),
      ("$comment", ofType "string"),
      ("$defs", .object [("type", .text "object"), ("additionalProperties", itself)])]),
    ("$defs", .object [
      ("anchorString", .object [
        ("type", .text "string"),
        ("pattern", .text "^[A-Za-z_][-A-Za-z0-9._]*$")]),
      ("uriString", formatted "uri"),
      ("uriReferenceString", formatted "uri-reference")])]

/-- The keywords that apply schemas to parts of an instance. -/
def applicator : Value :=
  .object [
    ("$schema", .text "https://json-schema.org/draft/2020-12/schema"),
    ("$id", .text "https://json-schema.org/draft/2020-12/meta/applicator"),
    ("$dynamicAnchor", .text "meta"),
    ("title", .text "Applicator vocabulary meta-schema"),
    ("type", .texts ["object", "boolean"]),
    ("properties", .object [
      ("prefixItems", reference "#/$defs/schemaArray"),
      ("items", itself),
      ("contains", itself),
      ("additionalProperties", itself),
      ("properties", .object [
        ("type", .text "object"),
        ("additionalProperties", itself),
        ("default", .object [])]),
      ("patternProperties", .object [
        ("type", .text "object"),
        ("additionalProperties", itself),
        ("propertyNames", .object [("format", .text "regex")]),
        ("default", .object [])]),
      ("dependentSchemas", .object [
        ("type", .text "object"),
        ("additionalProperties", itself),
        ("default", .object [])]),
      ("propertyNames", itself),
      ("if", itself),
      ("then", itself),
      ("else", itself),
      ("allOf", reference "#/$defs/schemaArray"),
      ("anyOf", reference "#/$defs/schemaArray"),
      ("oneOf", reference "#/$defs/schemaArray"),
      ("not", itself)]),
    ("$defs", .object [
      ("schemaArray", .object [("type", .text "array"), ("minItems", .int 1), ("items", itself)])])]

/-- The keywords for what no other keyword looked at. -/
def unevaluated : Value :=
  .object [
    ("$schema", .text "https://json-schema.org/draft/2020-12/schema"),
    ("$id", .text "https://json-schema.org/draft/2020-12/meta/unevaluated"),
    ("$dynamicAnchor", .text "meta"),
    ("title", .text "Unevaluated applicator vocabulary meta-schema"),
    ("type", .texts ["object", "boolean"]),
    ("properties", .object [("unevaluatedItems", itself), ("unevaluatedProperties", itself)])]

/-- The keywords that make demands of their own. -/
def validation : Value :=
  .object [
    ("$schema", .text "https://json-schema.org/draft/2020-12/schema"),
    ("$id", .text "https://json-schema.org/draft/2020-12/meta/validation"),
    ("$dynamicAnchor", .text "meta"),
    ("title", .text "Validation vocabulary meta-schema"),
    ("type", .texts ["object", "boolean"]),
    ("properties", .object [
      ("type", .object [
        ("anyOf", .list [
          reference "#/$defs/simpleTypes",
          .object [
            ("type", .text "array"),
            ("items", reference "#/$defs/simpleTypes"),
            ("minItems", .int 1),
            ("uniqueItems", .bool true)]])]),
      ("const", .bool true),
      ("enum", .object [("type", .text "array"), ("items", .bool true)]),
      ("multipleOf", .object [("type", .text "number"), ("exclusiveMinimum", .int 0)]),
      ("maximum", ofType "number"),
      ("exclusiveMaximum", ofType "number"),
      ("minimum", ofType "number"),
      ("exclusiveMinimum", ofType "number"),
      ("maxLength", reference "#/$defs/nonNegativeInteger"),
      ("minLength", reference "#/$defs/nonNegativeIntegerDefault0"),
      ("pattern", formatted "regex"),
      ("maxItems", reference "#/$defs/nonNegativeInteger"),
      ("minItems", reference "#/$defs/nonNegativeIntegerDefault0"),
      ("uniqueItems", .object [("type", .text "boolean"), ("default", .bool false)]),
      ("maxContains", reference "#/$defs/nonNegativeInteger"),
      ("minContains", .object [("$ref", .text "#/$defs/nonNegativeInteger"), ("default", .int 1)]),
      ("maxProperties", reference "#/$defs/nonNegativeInteger"),
      ("minProperties", reference "#/$defs/nonNegativeIntegerDefault0"),
      ("required", reference "#/$defs/stringArray"),
      ("dependentRequired", .object [
        ("type", .text "object"),
        ("additionalProperties", reference "#/$defs/stringArray")])]),
    ("$defs", .object [
      ("nonNegativeInteger", .object [("type", .text "integer"), ("minimum", .int 0)]),
      ("nonNegativeIntegerDefault0", .object [
        ("$ref", .text "#/$defs/nonNegativeInteger"),
        ("default", .int 0)]),
      ("simpleTypes", .object [
        ("enum", .texts ["array", "boolean", "integer", "null", "number", "object", "string"])]),
      ("stringArray", .object [
        ("type", .text "array"),
        ("items", ofType "string"),
        ("uniqueItems", .bool true),
        ("default", .list [])])])]

/-- The keywords that describe a schema. -/
def metaData : Value :=
  .object [
    ("$schema", .text "https://json-schema.org/draft/2020-12/schema"),
    ("$id", .text "https://json-schema.org/draft/2020-12/meta/meta-data"),
    ("$dynamicAnchor", .text "meta"),
    ("title", .text "Meta-data vocabulary meta-schema"),
    ("type", .texts ["object", "boolean"]),
    ("properties", .object [
      ("title", ofType "string"),
      ("description", ofType "string"),
      ("default", .bool true),
      ("deprecated", .object [("type", .text "boolean"), ("default", .bool false)]),
      ("readOnly", .object [("type", .text "boolean"), ("default", .bool false)]),
      ("writeOnly", .object [("type", .text "boolean"), ("default", .bool false)]),
      ("examples", .object [("type", .text "array"), ("items", .bool true)])])]

/-- The keyword for formats of texts, as a remark. -/
def formatAnnotation : Value :=
  .object [
    ("$schema", .text "https://json-schema.org/draft/2020-12/schema"),
    ("$id", .text "https://json-schema.org/draft/2020-12/meta/format-annotation"),
    ("$dynamicAnchor", .text "meta"),
    ("title", .text "Format vocabulary meta-schema"),
    ("type", .texts ["object", "boolean"]),
    ("properties", .object [("format", ofType "string")])]

/-- The keywords for texts that hold other documents. -/
def content : Value :=
  .object [
    ("$schema", .text "https://json-schema.org/draft/2020-12/schema"),
    ("$id", .text "https://json-schema.org/draft/2020-12/meta/content"),
    ("$dynamicAnchor", .text "meta"),
    ("title", .text "Content vocabulary meta-schema"),
    ("type", .texts ["object", "boolean"]),
    ("properties", .object [
      ("contentEncoding", ofType "string"),
      ("contentMediaType", ofType "string"),
      ("contentSchema", itself)])]

/-- The keyword for formats of texts, as a demand. -/
def formatAssertion : Value :=
  .object [
    ("$schema", .text "https://json-schema.org/draft/2020-12/schema"),
    ("$id", .text "https://json-schema.org/draft/2020-12/meta/format-assertion"),
    ("$dynamicAnchor", .text "meta"),
    ("title", .text "Format vocabulary meta-schema for assertion results"),
    ("type", .texts ["object", "boolean"]),
    ("properties", .object [("format", ofType "string")])]

/-- The schema of all schemas, which puts the vocabularies together. -/
def whole : Value :=
  .object [
    ("$schema", .text "https://json-schema.org/draft/2020-12/schema"),
    ("$id", .text "https://json-schema.org/draft/2020-12/schema"),
    ("$dynamicAnchor", .text "meta"),
    ("title", .text "Core and Validation specifications meta-schema"),
    ("allOf", .list [
      reference "meta/core",
      reference "meta/applicator",
      reference "meta/unevaluated",
      reference "meta/validation",
      reference "meta/meta-data",
      reference "meta/format-annotation",
      reference "meta/content"]),
    ("type", .texts ["object", "boolean"]),
    ("properties", .object [
      ("definitions", .object [
        ("type", .text "object"),
        ("additionalProperties", itself),
        ("deprecated", .bool true),
        ("default", .object [])]),
      ("dependencies", .object [
        ("type", .text "object"),
        ("additionalProperties", .object [
          ("anyOf", .list [itself, reference "meta/validation#/$defs/stringArray"])])]),
      ("$recursiveAnchor", reference "meta/core#/$defs/anchorString"),
      ("$recursiveRef", reference "meta/core#/$defs/uriReferenceString")])]

/-- All documents of the draft. -/
def documents : List Value :=
  [whole, core, applicator, unevaluated, validation, metaData, formatAnnotation, content,
    formatAssertion]

end ApiRouter.Schema.Metaschema.Draft2020

import ApiRouter.Schema.Metaschema.Basic

set_option autoImplicit false

/-! # The schema of schemas: draft 2019-09

What a schema of draft 2019-09 looks like, vocabulary by vocabulary, as schemas of that draft. -/

namespace ApiRouter.Schema.Metaschema.Draft2019

/-- A reference to the schema that all vocabularies together make up. -/
def itself : Value := .object [("$recursiveRef", .text "#")]

/-- The keywords that identify and refer to schemas. -/
def core : Value :=
  .object [
    ("$schema", .text "https://json-schema.org/draft/2019-09/schema"),
    ("$id", .text "https://json-schema.org/draft/2019-09/meta/core"),
    ("$recursiveAnchor", .bool true),
    ("title", .text "Core vocabulary meta-schema"),
    ("type", .texts ["object", "boolean"]),
    ("properties", .object [
      ("$id", .object [
        ("type", .text "string"),
        ("format", .text "uri-reference"),
        ("pattern", .text "^[^#]*#?$")]),
      ("$schema", formatted "uri"),
      ("$anchor", .object [
        ("type", .text "string"),
        ("pattern", .text "^[A-Za-z][-A-Za-z0-9.:_]*$")]),
      ("$ref", formatted "uri-reference"),
      ("$recursiveRef", formatted "uri-reference"),
      ("$recursiveAnchor", .object [("type", .text "boolean"), ("default", .bool false)]),
      ("$vocabulary", .object [
        ("type", .text "object"),
        ("propertyNames", formatted "uri"),
        ("additionalProperties", ofType "boolean")]),
      ("$comment", ofType "string"),
      ("$defs", .object [
        ("type", .text "object"),
        ("additionalProperties", itself),
        ("default", .object [])])])]

/-- The keywords that apply schemas to parts of an instance. -/
def applicator : Value :=
  .object [
    ("$schema", .text "https://json-schema.org/draft/2019-09/schema"),
    ("$id", .text "https://json-schema.org/draft/2019-09/meta/applicator"),
    ("$recursiveAnchor", .bool true),
    ("title", .text "Applicator vocabulary meta-schema"),
    ("properties", .object [
      ("additionalItems", itself),
      ("unevaluatedItems", itself),
      ("items", .object [("anyOf", .list [itself, reference "#/$defs/schemaArray"])]),
      ("contains", itself),
      ("additionalProperties", itself),
      ("unevaluatedProperties", itself),
      ("properties", .object [
        ("type", .text "object"),
        ("additionalProperties", itself),
        ("default", .object [])]),
      ("patternProperties", .object [
        ("type", .text "object"),
        ("additionalProperties", itself),
        ("propertyNames", .object [("format", .text "regex")]),
        ("default", .object [])]),
      ("dependentSchemas", .object [("type", .text "object"), ("additionalProperties", itself)]),
      ("propertyNames", itself),
      ("if", itself),
      ("then", itself),
      ("else", itself),
      ("allOf", reference "#/$defs/schemaArray"),
      ("anyOf", reference "#/$defs/schemaArray"),
      ("oneOf", reference "#/$defs/schemaArray"),
      ("not", itself)]),
    ("$defs", .object [
      ("schemaArray", .object [("type", .text "array"), ("minItems", .int 1), ("items", itself)])])]

/-- The keywords that make demands of their own. -/
def validation : Value :=
  .object [
    ("$schema", .text "https://json-schema.org/draft/2019-09/schema"),
    ("$id", .text "https://json-schema.org/draft/2019-09/meta/validation"),
    ("$recursiveAnchor", .bool true),
    ("title", .text "Validation vocabulary meta-schema"),
    ("type", .texts ["object", "boolean"]),
    ("properties", .object [
      ("multipleOf", .object [("type", .text "number"), ("exclusiveMinimum", .int 0)]),
      ("maximum", ofType "number"),
      ("exclusiveMaximum", ofType "number"),
      ("minimum", ofType "number"),
      ("exclusiveMinimum", ofType "number"),
      ("maxLength", reference "#/$defs/nonNegativeInteger"),
      ("minLength", reference "#/$defs/nonNegativeIntegerDefault0"),
      ("pattern", formatted "regex"),
      ("maxItems", reference "#/$defs/nonNegativeInteger"),
      ("minItems", reference "#/$defs/nonNegativeIntegerDefault0"),
      ("uniqueItems", .object [("type", .text "boolean"), ("default", .bool false)]),
      ("maxContains", reference "#/$defs/nonNegativeInteger"),
      ("minContains", .object [("$ref", .text "#/$defs/nonNegativeInteger"), ("default", .int 1)]),
      ("maxProperties", reference "#/$defs/nonNegativeInteger"),
      ("minProperties", reference "#/$defs/nonNegativeIntegerDefault0"),
      ("required", reference "#/$defs/stringArray"),
      ("dependentRequired", .object [
        ("type", .text "object"),
        ("additionalProperties", reference "#/$defs/stringArray")]),
      ("const", .bool true),
      ("enum", .object [("type", .text "array"), ("items", .bool true)]),
      ("type", .object [
        ("anyOf", .list [
          reference "#/$defs/simpleTypes",
          .object [
            ("type", .text "array"),
            ("items", reference "#/$defs/simpleTypes"),
            ("minItems", .int 1),
            ("uniqueItems", .bool true)]])])]),
    ("$defs", .object [
      ("nonNegativeInteger", .object [("type", .text "integer"), ("minimum", .int 0)]),
      ("nonNegativeIntegerDefault0", .object [
        ("$ref", .text "#/$defs/nonNegativeInteger"),
        ("default", .int 0)]),
      ("simpleTypes", .object [
        ("enum", .texts ["array", "boolean", "integer", "null", "number", "object", "string"])]),
      ("stringArray", .object [
        ("type", .text "array"),
        ("items", ofType "string"),
        ("uniqueItems", .bool true),
        ("default", .list [])])])]

/-- The keywords that describe a schema. -/
def metaData : Value :=
  .object [
    ("$schema", .text "https://json-schema.org/draft/2019-09/schema"),
    ("$id", .text "https://json-schema.org/draft/2019-09/meta/meta-data"),
    ("$recursiveAnchor", .bool true),
    ("title", .text "Meta-data vocabulary meta-schema"),
    ("type", .texts ["object", "boolean"]),
    ("properties", .object [
      ("title", ofType "string"),
      ("description", ofType "string"),
      ("default", .bool true),
      ("deprecated", .object [("type", .text "boolean"), ("default", .bool false)]),
      ("readOnly", .object [("type", .text "boolean"), ("default", .bool false)]),
      ("writeOnly", .object [("type", .text "boolean"), ("default", .bool false)]),
      ("examples", .object [("type", .text "array"), ("items", .bool true)])])]

/-- The keyword for formats of texts. -/
def format : Value :=
  .object [
    ("$schema", .text "https://json-schema.org/draft/2019-09/schema"),
    ("$id", .text "https://json-schema.org/draft/2019-09/meta/format"),
    ("$recursiveAnchor", .bool true),
    ("title", .text "Format vocabulary meta-schema"),
    ("type", .texts ["object", "boolean"]),
    ("properties", .object [("format", ofType "string")])]

/-- The keywords for texts that hold other documents. -/
def content : Value :=
  .object [
    ("$schema", .text "https://json-schema.org/draft/2019-09/schema"),
    ("$id", .text "https://json-schema.org/draft/2019-09/meta/content"),
    ("$recursiveAnchor", .bool true),
    ("title", .text "Content vocabulary meta-schema"),
    ("type", .texts ["object", "boolean"]),
    ("properties", .object [
      ("contentMediaType", ofType "string"),
      ("contentEncoding", ofType "string"),
      ("contentSchema", itself)])]

/-- The schema of all schemas, which puts the vocabularies together. -/
def whole : Value :=
  .object [
    ("$schema", .text "https://json-schema.org/draft/2019-09/schema"),
    ("$id", .text "https://json-schema.org/draft/2019-09/schema"),
    ("$recursiveAnchor", .bool true),
    ("title", .text "Core and Validation specifications meta-schema"),
    ("allOf", .list [
      reference "meta/core",
      reference "meta/applicator",
      reference "meta/validation",
      reference "meta/meta-data",
      reference "meta/format",
      reference "meta/content"]),
    ("type", .texts ["object", "boolean"]),
    ("properties", .object [
      ("definitions", .object [
        ("type", .text "object"),
        ("additionalProperties", itself),
        ("default", .object [])]),
      ("dependencies", .object [
        ("type", .text "object"),
        ("additionalProperties", .object [
          ("anyOf", .list [itself, reference "meta/validation#/$defs/stringArray"])])])])]

/-- All documents of the draft. -/
def documents : List Value :=
  [whole, core, applicator, validation, metaData, format, content]

end ApiRouter.Schema.Metaschema.Draft2019

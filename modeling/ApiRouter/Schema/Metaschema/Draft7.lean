import ApiRouter.Schema.Metaschema.Basic

set_option autoImplicit false

/-! # The schema of schemas: draft 7

What a schema of draft 7 looks like, as a schema of that draft. -/

namespace ApiRouter.Schema.Metaschema.Draft7

/-- The schema of all schemas. -/
def whole : Value :=
  .object [
    ("$schema", .text "http://json-schema.org/draft-07/schema#"),
    ("$id", .text "http://json-schema.org/draft-07/schema#"),
    ("title", .text "Core schema meta-schema"),
    ("definitions", .object [
      ("schemaArray", .object [
        ("type", .text "array"),
        ("minItems", .int 1),
        ("items", reference "#")]),
      ("nonNegativeInteger", .object [("type", .text "integer"), ("minimum", .int 0)]),
      ("nonNegativeIntegerDefault0", .object [
        ("allOf", .list [
          reference "#/definitions/nonNegativeInteger",
          .object [("default", .int 0)]])]),
      ("simpleTypes", .object [
        ("enum", .texts ["array", "boolean", "integer", "null", "number", "object", "string"])]),
      ("stringArray", .object [
        ("type", .text "array"),
        ("items", ofType "string"),
        ("uniqueItems", .bool true),
        ("default", .list [])])]),
    ("type", .texts ["object", "boolean"]),
    ("properties", .object [
      ("$id", formatted "uri-reference"),
      ("$schema", formatted "uri"),
      ("$ref", formatted "uri-reference"),
      ("$comment", ofType "string"),
      ("title", ofType "string"),
      ("description", ofType "string"),
      ("default", .bool true),
      ("readOnly", .object [("type", .text "boolean"), ("default", .bool false)]),
      ("writeOnly", .object [("type", .text "boolean"), ("default", .bool false)]),
      ("examples", .object [("type", .text "array"), ("items", .bool true)]),
      ("multipleOf", .object [("type", .text "number"), ("exclusiveMinimum", .int 0)]),
      ("maximum", ofType "number"),
      ("exclusiveMaximum", ofType "number"),
      ("minimum", ofType "number"),
      ("exclusiveMinimum", ofType "number"),
      ("maxLength", reference "#/definitions/nonNegativeInteger"),
      ("minLength", reference "#/definitions/nonNegativeIntegerDefault0"),
      ("pattern", formatted "regex"),
      ("additionalItems", reference "#"),
      ("items", .object [
        ("anyOf", .list [reference "#", reference "#/definitions/schemaArray"]),
        ("default", .bool true)]),
      ("maxItems", reference "#/definitions/nonNegativeInteger"),
      ("minItems", reference "#/definitions/nonNegativeIntegerDefault0"),
      ("uniqueItems", .object [("type", .text "boolean"), ("default", .bool false)]),
      ("contains", reference "#"),
      ("maxProperties", reference "#/definitions/nonNegativeInteger"),
      ("minProperties", reference "#/definitions/nonNegativeIntegerDefault0"),
      ("required", reference "#/definitions/stringArray"),
      ("additionalProperties", reference "#"),
      ("definitions", .object [
        ("type", .text "object"),
        ("additionalProperties", reference "#"),
        ("default", .object [])]),
      ("properties", .object [
        ("type", .text "object"),
        ("additionalProperties", reference "#"),
        ("default", .object [])]),
      ("patternProperties", .object [
        ("type", .text "object"),
        ("additionalProperties", reference "#"),
        ("propertyNames", .object [("format", .text "regex")]),
        ("default", .object [])]),
      ("dependencies", .object [
        ("type", .text "object"),
        ("additionalProperties", .object [
          ("anyOf", .list [reference "#", reference "#/definitions/stringArray"])])]),
      ("propertyNames", reference "#"),
      ("const", .bool true),
      ("enum", .object [("type", .text "array"), ("items", .bool true)]),
      ("type", .object [
        ("anyOf", .list [
          reference "#/definitions/simpleTypes",
          .object [
            ("type", .text "array"),
            ("items", reference "#/definitions/simpleTypes"),
            ("minItems", .int 1),
            ("uniqueItems", .bool true)]])]),
      ("format", ofType "string"),
      ("contentMediaType", ofType "string"),
      ("contentEncoding", ofType "string"),
      ("if", reference "#"),
      ("then", reference "#"),
      ("else", reference "#"),
      ("allOf", reference "#/definitions/schemaArray"),
      ("anyOf", reference "#/definitions/schemaArray"),
      ("oneOf", reference "#/definitions/schemaArray"),
      ("not", reference "#")]),
    ("default", .bool true)]

end ApiRouter.Schema.Metaschema.Draft7

import ApiRouter.Schema.Metaschema.Basic

set_option autoImplicit false

/-! # The schema of schemas: draft 6

What a schema of draft 6 looks like, as a schema of that draft. -/

namespace ApiRouter.Schema.Metaschema.Draft6

/-- The schema of all schemas. -/
def whole : Value :=
  .object [
    ("$schema", .text "http://json-schema.org/draft-06/schema#"),
    ("$id", .text "http://json-schema.org/draft-06/schema#"),
    ("title", .text "Core schema meta-schema"),
    ("definitions", .object [
      ("schemaArray", .object [
        ("type", .text "array"),
        ("minItems", .int 1),
        ("items", reference "#")]),
      ("nonNegativeInteger", .object [("type", .text "integer"), ("minimum", .int 0)]),
      ("nonNegativeIntegerDefault0", .object [
        ("allOf", .list [
          reference "#/definitions/nonNegativeInteger",
          .object [("default", .int 0)]])]),
      ("simpleTypes", .object [
        ("enum", .texts ["array", "boolean", "integer", "null", "number", "object", "string"])]),
      ("stringArray", .object [
        ("type", .text "array"),
        ("items", ofType "string"),
        ("uniqueItems", .bool true),
        ("default", .list [])])]),
    ("type", .texts ["object", "boolean"]),
    ("properties", .object [
      ("$id", formatted "uri-reference"),
      ("$schema", formatted "uri"),
      ("$ref", formatted "uri-reference"),
      ("title", ofType "string"),
      ("description", ofType "string"),
      ("default", .object []),
      ("examples", .object [("type", .text "array"), ("items", .object [])]),
      ("multipleOf", .object [("type", .text "number"), ("exclusiveMinimum", .int 0)]),
      ("maximum", ofType "number"),
      ("exclusiveMaximum", ofType "number"),
      ("minimum", ofType "number"),
      ("exclusiveMinimum", ofType "number"),
      ("maxLength", reference "#/definitions/nonNegativeInteger"),
      ("minLength", reference "#/definitions/nonNegativeIntegerDefault0"),
      ("pattern", formatted "regex"),
      ("additionalItems", reference "#"),
      ("items", .object [
        ("anyOf", .list [reference "#", reference "#/definitions/schemaArray"]),
        ("default", .object [])]),
      ("maxItems", reference "#/definitions/nonNegativeInteger"),
      ("minItems", reference "#/definitions/nonNegativeIntegerDefault0"),
      ("uniqueItems", .object [("type", .text "boolean"), ("default", .bool false)]),
      ("contains", reference "#"),
      ("maxProperties", reference "#/definitions/nonNegativeInteger"),
      ("minProperties", reference "#/definitions/nonNegativeIntegerDefault0"),
      ("required", reference "#/definitions/stringArray"),
      ("additionalProperties", reference "#"),
      ("definitions", .object [
        ("type", .text "object"),
        ("additionalProperties", reference "#"),
        ("default", .object [])]),
      ("properties", .object [
        ("type", .text "object"),
        ("additionalProperties", reference "#"),
        ("default", .object [])]),
      ("patternProperties", .object [
        ("type", .text "object"),
        ("additionalProperties", reference "#"),
        ("default", .object [])]),
      ("dependencies", .object [
        ("type", .text "object"),
        ("additionalProperties", .object [
          ("anyOf", .list [reference "#", reference "#/definitions/stringArray"])])]),
      ("propertyNames", reference "#"),
      ("const", .object []),
      ("enum", .object [
        ("type", .text "array"),
        ("minItems", .int 1),
        ("uniqueItems", .bool true)]),
      ("type", .object [
        ("anyOf", .list [
          reference "#/definitions/simpleTypes",
          .object [
            ("type", .text "array"),
            ("items", reference "#/definitions/simpleTypes"),
            ("minItems", .int 1),
            ("uniqueItems", .bool true)]])]),
      ("format", ofType "string"),
      ("allOf", reference "#/definitions/schemaArray"),
      ("anyOf", reference "#/definitions/schemaArray"),
      ("oneOf", reference "#/definitions/schemaArray"),
      ("not", reference "#")]),
    ("default", .object [])]

end ApiRouter.Schema.Metaschema.Draft6

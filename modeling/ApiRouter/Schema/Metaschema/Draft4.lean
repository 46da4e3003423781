import ApiRouter.Schema.Metaschema.Basic

set_option autoImplicit false

/-! # The schema of schemas: draft 4

What a schema of draft 4 looks like, as a schema of that draft. -/

namespace ApiRouter.Schema.Metaschema.Draft4

/-- The schema of all schemas. -/
def whole : Value :=
  .object [
    ("id", .text "http://json-schema.org/draft-04/schema#"),
    ("$schema", .text "http://json-schema.org/draft-04/schema#"),
    ("description", .text "Core schema meta-schema"),
    ("definitions", .object [
      ("schemaArray", .object [
        ("type", .text "array"),
        ("minItems", .int 1),
        ("items", reference "#")]),
      ("positiveInteger", .object [("type", .text "integer"), ("minimum", .int 0)]),
      ("positiveIntegerDefault0", .object [
        ("allOf", .list [
          reference "#/definitions/positiveInteger",
          .object [("default", .int 0)]])]),
      ("simpleTypes", .object [
        ("enum", .texts ["array", "boolean", "integer", "null", "number", "object", "string"])]),
      ("stringArray", .object [
        ("type", .text "array"),
        ("items", ofType "string"),
        ("minItems", .int 1),
        ("uniqueItems", .bool true)])]),
    ("type", .text "object"),
    ("properties", .object [
      ("id", ofType "string"),
      ("$schema", ofType "string"),
      ("title", ofType "string"),
      ("description", ofType "string"),
      ("default", .object []),
      ("multipleOf", .object [
        ("type", .text "number"),
        ("minimum", .int 0),
        ("exclusiveMinimum", .bool true)]),
      ("maximum", ofType "number"),
      ("exclusiveMaximum", ofType "boolean"),
      ("minimum", ofType "number"),
      ("exclusiveMinimum", ofType "boolean"),
      ("maxLength", reference "#/definitions/positiveInteger"),
      ("minLength", reference "#/definitions/positiveIntegerDefault0"),
      ("pattern", formatted "regex"),
      ("additionalItems", .object [
        ("anyOf", .list [ofType "boolean", reference "#"]),
        ("default", .object [])]),
      ("items", .object [
        ("anyOf", .list [reference "#", reference "#/definitions/schemaArray"]),
        ("default", .object [])]),
      ("maxItems", reference "#/definitions/positiveInteger"),
      ("minItems", reference "#/definitions/positiveIntegerDefault0"),
      ("uniqueItems", .object [("type", .text "boolean"), ("default", .bool false)]),
      ("maxProperties", reference "#/definitions/positiveInteger"),
      ("minProperties", reference "#/definitions/positiveIntegerDefault0"),
      ("required", reference "#/definitions/stringArray"),
      ("additionalProperties", .object [
        ("anyOf", .list [ofType "boolean", reference "#"]),
        ("default", .object [])]),
      ("definitions", .object [
        ("type", .text "object"),
        ("additionalProperties", reference "#"),
        ("default", .object [])]),
      ("properties", .object [
        ("type", .text "object"),
        ("additionalProperties", reference "#"),
        ("default", .object [])]),
      ("patternProperties", .object [
        ("type", .text "object"),
        ("additionalProperties", reference "#"),
        ("default", .object [])]),
      ("dependencies", .object [
        ("type", .text "object"),
        ("additionalProperties", .object [
          ("anyOf", .list [reference "#", reference "#/definitions/stringArray"])])]),
      ("enum", .object [
        ("type", .text "array"),
        ("minItems", .int 1),
        ("uniqueItems", .bool true)]),
      ("type", .object [
        ("anyOf", .list [
          reference "#/definitions/simpleTypes",
          .object [
            ("type", .text "array"),
            ("items", reference "#/definitions/simpleTypes"),
            ("minItems", .int 1),
            ("uniqueItems", .bool true)]])]),
      ("format", ofType "string"),
      ("allOf", reference "#/definitions/schemaArray"),
      ("anyOf", reference "#/definitions/schemaArray"),
      ("oneOf", reference "#/definitions/schemaArray"),
      ("not", reference "#")]),
    ("dependencies", .object [
      ("exclusiveMaximum", .texts ["maximum"]),
      ("exclusiveMinimum", .texts ["minimum"])]),
    ("default", .object [])]

end ApiRouter.Schema.Metaschema.Draft4

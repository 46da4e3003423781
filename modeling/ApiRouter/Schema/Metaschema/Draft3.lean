import ApiRouter.Schema.Metaschema.Basic

set_option autoImplicit false

/-! # The schema of schemas: draft 3

What a schema of draft 3 looks like, as a schema of that draft. -/

namespace ApiRouter.Schema.Metaschema.Draft3

/-- The schema of all schemas. -/
def whole : Value :=
  .object [
    ("$schema", .text "http://json-schema.org/draft-03/schema#"),
    ("id", .text "http://json-schema.org/draft-03/schema#"),
    ("type", .text "object"),
    ("properties", .object [
      ("type", .object [
        ("type", .texts ["string", "array"]),
        ("items", .object [("type", .list [.text "string", reference "#"])]),
        ("uniqueItems", .bool true),
        ("default", .text "any")]),
      ("properties", .object [
        ("type", .text "object"),
        ("additionalProperties", .object [("$ref", .text "#"), ("type", .text "object")]),
        ("default", .object [])]),
      ("patternProperties", .object [
        ("type", .text "object"),
        ("additionalProperties", reference "#"),
        ("default", .object [])]),
      ("additionalProperties", .object [
        ("type", .list [reference "#", .text "boolean"]),
        ("default", .object [])]),
      ("items", .object [
        ("type", .list [reference "#", .text "array"]),
        ("items", reference "#"),
        ("default", .object [])]),
      ("additionalItems", .object [
        ("type", .list [reference "#", .text "boolean"]),
        ("default", .object [])]),
      ("required", .object [("type", .text "boolean"), ("default", .bool false)]),
      ("dependencies", .object [
        ("type", .text "object"),
        ("additionalProperties", .object [
          ("type", .list [.text "string", .text "array", reference "#"]),
          ("items", ofType "string")]),
        ("default", .object [])]),
      ("minimum", ofType "number"),
      ("maximum", ofType "number"),
      ("exclusiveMinimum", .object [("type", .text "boolean"), ("default", .bool false)]),
      ("exclusiveMaximum", .object [("type", .text "boolean"), ("default", .bool false)]),
      ("minItems", .object [("type", .text "integer"), ("minimum", .int 0), ("default", .int 0)]),
      ("maxItems", .object [("type", .text "integer"), ("minimum", .int 0)]),
      ("uniqueItems", .object [("type", .text "boolean"), ("default", .bool false)]),
      ("pattern", formatted "regex"),
      ("minLength", .object [("type", .text "integer"), ("minimum", .int 0), ("default", .int 0)]),
      ("maxLength", ofType "integer"),
      ("enum", .object [
        ("type", .text "array"),
        ("minItems", .int 1),
        ("uniqueItems", .bool true)]),
      ("default", ofType "any"),
      ("title", ofType "string"),
      ("description", ofType "string"),
      ("format", ofType "string"),
      ("divisibleBy", .object [
        ("type", .text "number"),
        ("minimum", .int 0),
        ("exclusiveMinimum", .bool true),
        ("default", .int 1)]),
      ("disallow", .object [
        ("type", .texts ["string", "array"]),
        ("items", .object [("type", .list [.text "string", reference "#"])]),
        ("uniqueItems", .bool true)]),
      ("extends", .object [
        ("type", .list [reference "#", .text "array"]),
        ("items", reference "#"),
        ("default", .object [])]),
      ("id", ofType "string"),
      ("$ref", ofType "string"),
      ("$schema", formatted "uri")]),
    ("dependencies", .object [
      ("exclusiveMinimum", .text "minimum"),
      ("exclusiveMaximum", .text "maximum")]),
    ("default", .object [])]

end ApiRouter.Schema.Metaschema.Draft3

import ApiRouter.Value

set_option autoImplicit false

/-! # Building schemas

Short forms for the schemas that recur in the schemas of schemas. -/

namespace ApiRouter.Schema.Metaschema

/-- The schema at a place named by a reference. -/
def reference (target : String) : Value := .object [("$ref", .text target)]

/-- All instances of a type. -/
def ofType (name : String) : Value := .object [("type", .text name)]

/-- Texts of a format. -/
def formatted (format : String) : Value :=
  .object [("type", .text "string"), ("format", .text format)]

end ApiRouter.Schema.Metaschema

import ApiRouter.Settings

set_option autoImplicit false

/-! # Requests

An incoming request as the router and the validator see it. Its path is the mount point followed
by the path below it. -/

namespace ApiRouter

/-- An incoming request. -/
structure Request where
  method : String
  /-- The path below the mount point. -/
  pathInfo : String
  /-- The mount point. -/
  scriptName : String
  query : List (String × Value)
  form : List (String × Value)
  headers : List (String × String)
  /-- The decoded body, null when there is none. -/
  body : Value
  contentType : Option String
  deriving DecidableEq, Repr

namespace Request

/-- The whole path. -/
def path (r : Request) : String := r.scriptName ++ r.pathInfo

def ofEntries (m : Entries) : Checked Request :=
  Request.mk
    <$> Field.required m "request_method" Field.text
    <*> Field.required m "path_info" Field.text
    <*> Field.withDefault m "script_name" "" Field.text
    <*> Field.withDefault m "query_params" [] (Field.mapOf Field.any)
    <*> Field.withDefault m "form_params" [] (Field.mapOf Field.any)
    <*> Field.withDefault m "headers" [] (Field.mapOf Field.text)
    <*> Field.withDefault m "body" .null Field.any
    <*> Field.optional m "content_type" Field.text

def ofValue : Value → Checked Request := Field.model ofEntries

def toValue (r : Request) : Value :=
  .object [("request_method", .text r.method), ("path_info", .text r.pathInfo),
    ("script_name", .text r.scriptName), ("query_params", .object r.query),
    ("form_params", .object r.form),
    ("headers", .object (r.headers.map fun h => (h.1, .text h.2))), ("body", r.body),
    ("content_type", .ofOption .text r.contentType)]

end Request

end ApiRouter

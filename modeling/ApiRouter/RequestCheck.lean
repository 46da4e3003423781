import ApiRouter.Coercion
import ApiRouter.Router
import ApiRouter.Schema.Check

set_option autoImplicit false

/-! # Checking requests and responses

A validator holds the link that a request was routed to. It checks the content type, the merged
parameters or the body, and the headers, in this order; the first check that fails ends the whole. A
response is checked when its status is the one that counts as success. -/

namespace ApiRouter

/-- A router and what it found for a request. -/
structure Validator where
  router : Router
  found : Option Found

namespace Validator

/-- The validator for a request. -/
def forRequest (router : Router) (request : Request) : Validator :=
  ⟨router, router.findRequest? request⟩

/-- The values captured from the path. -/
def captures (v : Validator) : List (String × String) :=
  match v.found with
  | some f => f.captures
  | none => []

def definitions (v : Validator) : Value := v.router.api.definitions

/-! ## Content type -/

/-- The media type of a content type: what comes before its parameters, in small letters. -/
def mediaTypeOf (contentType : String) : String :=
  Text.lower (String.ofList (Text.trim (contentType.toList.takeWhile (· != ';'))))

/-- Refuses a body of another media type than the link takes. -/
def checkContentType (encType : Value) (request : Request) : Except Failure Unit :=
  match request.body, request.contentType with
  | .null, _ => .ok ()
  | _, none => .ok ()
  | _, some contentType =>
    if contentType.isEmpty || !encType.truthy then .ok ()
    else
      let refuse := fail .invalidRequest ("'Content-Type' should be " ++ encType.display ++
        ", got " ++ mediaTypeOf contentType ++ ".")
      match encType with
      | .text expected => if mediaTypeOf contentType == Text.lower expected then .ok () else refuse
      | .bytes _ => refuse
      | _ => defect .noMember

/-! ## Parameters -/

/-- One source of parameters: its values, coerced if the source asks for it. -/
def sourceValues (values : List (String × Value)) (option : Option Bool) (default : Bool)
    (schema : Schema) : Except Failure (List (String × Value)) :=
  if option.getD default then Coercion.coerceParams values schema else .ok values

/-- The parameters of a request: those of the query, overridden by those of the form, overridden by
those captured from the path. -/
def collectParams (options : CheckOptions) (defaults : Defaults) (captures : List (String × String))
    (request : Request) (schema : Schema) : Except Failure (List (String × Value)) := do
  let query ← sourceValues request.query options.coerceQuery defaults.coerceQuery schema
  let form ← sourceValues request.form options.coerceForm defaults.coerceForm schema
  let captured ← sourceValues (captures.map fun c => (c.1, .text c.2)) options.coercePath
    defaults.coercePath schema
  .ok (Ordered.update (Ordered.update (Ordered.ofList query) form) captured)

/-! ## Headers -/

/-- The headers of a request by name in small letters, the last one of a name counting. -/
def providedHeaders (request : Request) : List (String × String) :=
  Ordered.ofList (request.headers.map fun h => (Text.lower h.1, h.2))

/-- The declared headers that a request has, under their declared names. -/
def declaredHeaders (request : Request) (schema : Schema) : List (String × Value) :=
  let provided := providedHeaders request
  schema.properties.filterMap fun (name, _) =>
    (Ordered.find? provided (Text.lower name)).map fun value => (name, .text value)

/-- The headers to check: the declared ones, coerced. -/
def collectHeaders (request : Request) (schema : Schema) :
    Except Failure (List (String × Value)) :=
  Coercion.coerceParams (declaredHeaders request schema) schema

/-! ## Whole requests -/

/-- Checks the parameters against their schema, if there is one, and gives them. -/
def checkParams (v : Validator) (link : Link) (request : Request) :
    Except Failure (List (String × Value)) :=
  match link.shape with
  | .body _ => .ok []
  | .parameters schema => do
    let params ← collectParams v.router.options v.router.api.defaults v.captures request schema
    Schema.require .invalidRequest "Invalid request parameters" (.map schema.data) v.definitions
      (.object params)
    .ok params

/-- Checks the body against its payload, if there is one. -/
def checkBody (v : Validator) (link : Link) (request : Request) : Except Failure Unit :=
  match link.shape.payload, request.body with
  | .null, _ => .ok ()
  | _, .null =>
    if link.bodyRequired then
      fail .invalidRequest "Invalid request body: a request body is required"
    else .ok ()
  | payload, body =>
    Schema.require .invalidRequest "Invalid request body" payload v.definitions body

/-- Checks the declared headers, if there are any. -/
def checkHeaders (v : Validator) (link : Link) (request : Request) : Except Failure Unit :=
  match link.headerSchema with
  | none => .ok ()
  | some schema => do
    let headers ← collectHeaders request schema
    Schema.require .invalidRequest "Invalid request headers" (.map schema.data) v.definitions
      (.object headers)

/-- Checks a request and gives its parameters. Without a link there is nothing to check. -/
def checkRequest (v : Validator) (request : Request) : Except Failure (List (String × Value)) :=
  match v.found with
  | none => .ok []
  | some f => do
    if v.router.options.checkContentType then checkContentType f.link.encType request
    let params ← v.checkParams f.link request
    v.checkBody f.link request
    if v.router.options.checkHeaders then v.checkHeaders f.link request
    .ok params

/-- Checks the body of a response when its status is the one that counts as success. -/
def checkResponse (v : Validator) (status body : Value) : Except Failure Unit :=
  match v.found with
  | none => .ok ()
  | some f =>
    match f.link.targetSchema, f.link.successStatus with
    | some schema, some expected =>
      if status.equal (.int expected) then
        Schema.require .invalidResponse "Invalid response" (.map schema.data) v.definitions body
      else .ok ()
    | _, _ => .ok ()

end Validator

end ApiRouter

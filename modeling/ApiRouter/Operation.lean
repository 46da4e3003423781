import ApiRouter.Parameter
import ApiRouter.Response
import ApiRouter.Template
import ApiRouter.Text.Case

set_option autoImplicit false

/-! # Operations

An operation is a method under a path of the document. It compiles to a link: what requests to it
have to carry, and what its success response looks like. -/

namespace ApiRouter

/-- A compiled operation. -/
structure Link where
  method : String
  /-- The path as the document writes it. -/
  href : String
  /-- The media type of request bodies. -/
  encType : Value
  /-- The media type of response bodies. -/
  mediaType : Value
  successStatus : Option Nat
  shape : Parameter.RequestShape
  bodyRequired : Bool
  headerSchema : Option Schema
  targetSchema : Option Schema

/-- The relation type of a link, which documents of this format do not have. -/
def Link.relation (_ : Link) : Except Failure String :=
  fail .notImplemented "rel not implemented for OpenAPI"

/-- A method under a path, as the document declares it. -/
structure Operation where
  path : Scalar
  method : String
  /-- The parameters that all operations of the path share. -/
  shared : Value
  body : Entries
  deriving DecidableEq, Repr

namespace Operation

/-! ## The operations of a document -/

/-- The methods that are routed. -/
def routedMethods : List String := ["DELETE", "GET", "PATCH", "POST", "PUT"]

/-- The value, or an empty list when there is nothing to it. -/
def orEmpty (v : Value) : Value :=
  if v.truthy then v else .list []

/-- The operations of one path: the mappings under routed methods, whatever the case of those. -/
def ofPathItem (path : Scalar) (item : Entries) : List Operation :=
  item.filterMap fun (key, v) =>
    let method := Text.upper key.display
    match v with
    | .map body =>
      if routedMethods.contains method then
        some ⟨path, method, orEmpty (Entries.get item "parameters"), body⟩
      else none
    | _ => none

/-- The operations of the paths that are mappings, in document order. -/
def ofPaths (paths : Entries) : List Operation :=
  paths.flatMap fun (path, item) =>
    match item with
    | .map m => ofPathItem path m
    | _ => []

/-! ## Parameters -/

/-- What makes two declarations the same parameter: name and location as written. -/
def identity (declaration : Value) : Except Failure (Scalar × Scalar) :=
  match declaration with
  | .map d =>
    match Entries.get d "name", Entries.get d "in" with
    | .scalar name, .scalar location => .ok (name, location)
    | _, _ => defect .wrongType
  | _ => defect .noMember

/-- The shared declarations that the operation does not override, then its own. -/
def mergedParameters (shared own : Value) : Except Failure (List Value) := do
  let own ← Schema.partsOf own
  let overridden ← own.mapM identity
  let shared ← Schema.partsOf shared
  let kept ← shared.filterMapM fun d => do
    let id ← identity d
    .ok (if overridden.contains id then none else some d)
  .ok (kept ++ own)

/-- The operation with the merged declarations as its parameters. -/
def withParameters (op : Operation) : Except Failure Entries := do
  let merged ← mergedParameters op.shared (orEmpty (Entries.get op.body "parameters"))
  .ok (Entries.insert op.body "parameters" (.list merged))

/-! ## Media types -/

/-- The first part of a list of media types. -/
def firstOf (declared : Value) : Except Failure Value :=
  match declared with
  | .list (v :: _) => .ok v
  | .text s => .ok (.text (String.ofList (s.toList.take 1)))
  | .map m =>
    match Ordered.find? m (.int 0) with
    | some v => .ok v
    | none => defect .missingKey
  | _ => defect .wrongType

def standardMediaType : String := "application/json"

/-- The first media type that the operation declares, else the document, else the standard one. -/
def mediaType (own document : Value) : Except Failure Value :=
  if own.truthy then firstOf own
  else if document.truthy then firstOf document
  else .ok (.text standardMediaType)

/-! ## Compiling -/

/-- Whether a declaration is in the given location. -/
def isIn (location : Location) (declaration : Value) : Bool :=
  match declaration with
  | .map d => Parameter.locationOf d == some location
  | _ => false

/-- Whether a declaration is marked as required. -/
def isRequired (declaration : Value) : Bool :=
  match declaration with
  | .map d => (Entries.get d "required").truthy
  | _ => false

/-- The path as a text; no other key makes a template. -/
def pathText (op : Operation) : Except Failure String :=
  match op.path with
  | .text s => .ok s
  | _ => defect .wrongType

/-- The link of an operation in the given document. -/
def link (document : Entries) (op : Operation) : Except Failure Link := do
  let merged ← op.withParameters
  let declared := match Entries.get merged "parameters" with
    | .list ds => ds
    | _ => []
  let shape ← Parameter.requestShape (.map merged)
  let response ← Response.success (Entries.get op.body "responses")
  let headerSchema ← if declared.any (isIn .header) then
      some <$> Parameter.headerSchema (.map merged)
    else .ok none
  let encType ← mediaType (Entries.get op.body "consumes") (Entries.get document "consumes")
  let mediaType ← mediaType (Entries.get op.body "produces") (Entries.get document "produces")
  let href ← op.pathText
  .ok
    { method := op.method
      href := href
      encType := encType
      mediaType := mediaType
      successStatus := response.status
      shape := shape
      bodyRequired := declared.any fun d => isIn .body d && isRequired d
      headerSchema := headerSchema
      targetSchema := response.schema }

/-- The notices that compiling an operation gives. -/
def notices (op : Operation) : List Parameter.Notice :=
  match op.withParameters with
  | .ok merged => Parameter.notices (.map merged)
  | .error _ => []

end Operation

end ApiRouter

import ApiRouter.Operation
import ApiRouter.Reference
import ApiRouter.Settings

set_option autoImplicit false

/-! # Compiled documents

A document compiles to its routes: for every method, templates and links in document order.
Compiling is all or nothing; the first operation that cannot be compiled ends it. -/

namespace ApiRouter

/-- A link under the template of its paths. -/
structure Route where
  template : Template
  link : Link

/-- A compiled document. -/
structure Api where
  definitions : Value
  /-- What comes before every path, without slashes at its end. -/
  basePath : String
  defaults : Defaults
  /-- The routes by method, methods in the order of their first use. -/
  routes : List (String × List Route)

namespace Api

/-! ## Compiling -/

/-- The version of the document format that is understood. -/
def requiredVersion : String := "2.0"

/-- The text without slashes at its end. -/
def dropSlashes (s : String) : String :=
  String.ofList (s.toList.reverse.dropWhile (· == '/')).reverse

/-- The common beginning of all paths. -/
def basePathOf (document : Entries) : Except Failure String :=
  let declared := Entries.get document "basePath"
  if !declared.truthy then .ok ""
  else
    match declared with
    | .text s => .ok (dropSlashes s)
    | .bytes _ => defect .wrongType
    | _ => defect .noMember

/-- The operations that a document declares. -/
def operationsOf (document : Entries) : Except Failure (List Operation) :=
  let declared := Entries.get document "paths"
  if !declared.truthy then .ok []
  else
    match declared with
    | .map paths => .ok (Operation.ofPaths paths)
    | _ => defect .noMember

/-- The route of an operation. -/
def route (document : Entries) (basePath : String) (op : Operation) : Except Failure Route := do
  let link ← op.link document
  .ok ⟨.ofString (basePath ++ link.href), link⟩

/-- Files a route under its method. -/
def file (routes : List (String × List Route)) (r : Route) : List (String × List Route) :=
  Ordered.insert routes r.link.method ((Ordered.find? routes r.link.method).getD [] ++ [r])

/-- The routes by method. -/
def filed (routes : List Route) : List (String × List Route) :=
  routes.foldl file []

/-- The parts of a document that are checked before any operation. -/
structure Heading where
  definitions : Value
  basePath : String

/-- The heading of a document of the required version that has definitions. -/
def headingOf (document : Entries) : Except Failure Heading := do
  if (Entries.get document "swagger").display != requiredVersion then
    fail .versionMismatch ("driver requires OpenAPI " ++ requiredVersion ++ ".")
  match (Entries.get document "definitions").present? with
  | none => fail .missingDefinitions "no definitions section in spec data."
  | some definitions => .ok ⟨definitions, ← basePathOf document⟩

/-- Compiles a document. -/
def compile (document : Entries) (defaults : Defaults) : Except Failure Api := do
  let heading ← headingOf document
  let operations ← operationsOf document
  let routes ← operations.mapM (route document heading.basePath)
  .ok ⟨heading.definitions, heading.basePath, defaults, filed routes⟩

/-- Compiles any value; only a mapping is a document. -/
def compileValue (document : Value) (defaults : Defaults) : Except Failure Api :=
  match document with
  | .map d => compile d defaults
  | _ => defect .noMember

/-- The notices for operations in order, up to the first one that cannot be compiled. -/
def noticesFrom (document : Entries) (basePath : String) : List Operation → List Parameter.Notice
  | [] => []
  | op :: ops =>
    op.notices ++
      match route document basePath op with
      | .ok _ => noticesFrom document basePath ops
      | .error _ => []

/-- The notices that compiling a document gives. -/
def notices (document : Entries) : List Parameter.Notice :=
  match headingOf document, operationsOf document with
  | .ok heading, .ok operations => noticesFrom document heading.basePath operations
  | _, _ => []

/-! ## Looking up -/

/-- The routes of a method, whatever its case. -/
def routesOf (api : Api) (method : String) : List Route :=
  (Ordered.find? api.routes (Text.upper method)).getD []

/-- All links with their methods, in route order. -/
def links (api : Api) : List (String × Link) :=
  api.routes.flatMap fun (method, routes) => routes.map fun r => (method, r.link)

/-- The link of a method whose path is written exactly so. -/
def findLink? (api : Api) (method href : String) : Option Link :=
  ((api.routesOf method).find? fun r => r.link.href == href).map Route.link

/-- What references of the document point into. -/
def referenceRoot (api : Api) : Value :=
  .object [("definitions", api.definitions)]

/-- A payload with its references into the definitions inlined. -/
def inline (api : Api) (payload : Value) : Except Failure Value :=
  Reference.inline payload api.referenceRoot

end Api

end ApiRouter

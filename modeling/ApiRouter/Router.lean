import ApiRouter.Api
import ApiRouter.Request

set_option autoImplicit false

/-! # Routing

A router looks up the link for a method and a path among the routes of a compiled document. It may
be mounted under a path, which is taken off before matching. -/

namespace ApiRouter

/-- A compiled document with the path it is mounted under and the options for checking requests. -/
structure Router where
  api : Api
  mount : Option String
  options : CheckOptions

/-- A link, and the values captured from the path. -/
structure Found where
  link : Link
  captures : List (String × String)

namespace Router

/-- A router under a path; the empty path is none. -/
def ofApi (api : Api) (mount : Option String) (options : CheckOptions) : Router :=
  ⟨api, mount.filter fun m => !m.isEmpty, options⟩

/-- The rest of a text after a beginning. -/
def dropStart? (start text : List Char) : Option (List Char) :=
  match start, text with
  | [], rest => some rest
  | c :: cs, d :: ds => if c = d then dropStart? cs ds else none
  | _ :: _, [] => none

/-- The path below the mount point, if it lies there. -/
def below? (mount path : String) : Option String :=
  (dropStart? mount.toList path.toList).map String.ofList

/-- Whether a path lies under the mount point. -/
def includes (r : Router) (path : String) : Bool :=
  match r.mount with
  | none => true
  | some m => (below? m path).isSome

/-- The path without the mount point, or as it is when it does not lie there. -/
def localPath (r : Router) (path : String) : String :=
  match r.mount with
  | none => path
  | some m => (below? m path).getD path

/-- The first of the routes that matches a path. -/
def firstMatch? (routes : List Route) (path : String) : Option Found :=
  routes.findSome? fun r => (r.template.captures? path).map fun cs => ⟨r.link, cs⟩

/-- The link for a method and a path. -/
def find? (r : Router) (method path : String) : Option Found :=
  firstMatch? (r.api.routesOf method) (r.localPath path)

/-- Whether the whole path of a request lies under the mount point. -/
def includesRequest (r : Router) (request : Request) : Bool :=
  r.includes request.path

/-- The link for a request, by the path below its own mount point. -/
def findRequest? (r : Router) (request : Request) : Option Found :=
  r.find? request.method request.pathInfo

end Router

end ApiRouter

import ApiRouter.Api

set_option autoImplicit false

/-! # Equality of compiled documents

Two compiled documents are equal when they route alike: mappings count without their order, routes
of one method count in order. -/

namespace ApiRouter

/-- Equality of values that may be absent. -/
def sameOption {α : Type} (same : α → α → Bool) : Option α → Option α → Bool
  | some a, some b => same a b
  | none, none => true
  | _, _ => false

/-- Equality of lists, part by part. -/
def sameList {α : Type} (same : α → α → Bool) : List α → List α → Bool
  | a :: as, b :: bs => same a b && sameList same as bs
  | [], [] => true
  | _, _ => false

/-- Equality of links: schemas by their payloads, values by what they hold. -/
def Link.same (a b : Link) : Bool :=
  a.method == b.method && a.href == b.href && a.encType.equal b.encType &&
    a.mediaType.equal b.mediaType && a.successStatus == b.successStatus &&
    sameOption Schema.same a.shape.schema? b.shape.schema? &&
    a.shape.payload.equal b.shape.payload && a.bodyRequired == b.bodyRequired &&
    sameOption Schema.same a.headerSchema b.headerSchema &&
    sameOption Schema.same a.targetSchema b.targetSchema

def Route.same (a b : Route) : Bool :=
  a.template.same b.template && a.link.same b.link

namespace Api

/-- Whether two documents route alike. -/
def sameRoutes (a b : Api) : Bool :=
  a.routes.length == b.routes.length &&
    a.routes.all fun (method, routes) =>
      match Ordered.find? b.routes method with
      | some others => sameList Route.same routes others
      | none => false

/-- Whether two documents route alike and agree in everything else. -/
def same (a b : Api) : Bool :=
  a.definitions.equal b.definitions && sameRoutes a b && a.basePath == b.basePath &&
    a.defaults == b.defaults

end Api

end ApiRouter

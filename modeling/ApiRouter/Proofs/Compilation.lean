import ApiRouter.Api
import ApiRouter.Proofs.Link
import ApiRouter.Proofs.Rows

set_option autoImplicit false

/-! # The routes of a compiled document

The members of a document are what its paths hold, laid out in one row: every key of every path item
that is a mapping, in document order. Some of them are routed. Compiling turns these into routes, one
for one and in order, and files the routes under their methods. What can be looked up in the result is
therefore what the document declares, and nothing is lost, doubled or put elsewhere on the way. -/

namespace ApiRouter

/-! ## Members -/

/-- A key of a path item with its value, beside the path and the whole item. -/
structure Member where
  path : Scalar
  item : Entries
  key : Scalar
  value : Value
  deriving DecidableEq, Repr

namespace Member

/-- The members of one path item. -/
def ofItem (path : Scalar) (item : Entries) : List Member :=
  item.map fun e => ⟨path, item, e.1, e.2⟩

/-- The members of the path items that are mappings. -/
def ofPaths (paths : Entries) : List Member :=
  paths.flatMap fun e =>
    match e.2 with
    | .map item => ofItem e.1 item
    | _ => []

/-- The members of a document, in document order. -/
def all (document : Entries) : List Member :=
  match Entries.get document "paths" with
  | .map paths => ofPaths paths
  | _ => []

/-- The method that a key names, whatever its case. -/
def method (m : Member) : String :=
  Text.upper m.key.display

/-- A member is routed when it is a mapping under one of the routed methods. -/
def IsRouted (m : Member) : Prop :=
  m.value.isMap = true ∧ m.method ∈ Operation.routedMethods

instance : DecidablePred IsRouted :=
  fun m => inferInstanceAs (Decidable (m.value.isMap = true ∧ m.method ∈ Operation.routedMethods))

/-- The routed members of a document, in document order. -/
def routed (document : Entries) : List Member :=
  (all document).filter IsRouted

theorem mem_routed {document : Entries} {m : Member} :
    m ∈ routed document ↔ m ∈ all document ∧ m.IsRouted := by
  simp [routed]

/-! ## Members as operations -/

/-- The operation of a member that is routed. -/
def operation? (m : Member) : Option Operation :=
  match m.value with
  | .map body =>
    if m.method ∈ Operation.routedMethods then
      some ⟨m.path, m.method, Operation.orEmpty (Entries.get m.item "parameters"), body⟩
    else none
  | _ => none

/-- What the link of a routed member is compiled from, and that it is the link given. -/
def LinksTo (document : Entries) (m : Member) (link : Link) : Prop :=
  ∃ op, m.operation? = some op ∧ op.link document = .ok link

theorem operation?_eq_some {m : Member} {op : Operation} :
    m.operation? = some op ↔
      m.method ∈ Operation.routedMethods ∧ m.value = .map op.body ∧
        op = ⟨m.path, m.method, Operation.orEmpty (Entries.get m.item "parameters"), op.body⟩ := by
  unfold operation?
  split
  · next body hbody =>
      rw [hbody]
      split
      · next hmem =>
          constructor
          · intro h
            cases h
            exact ⟨hmem, rfl, rfl⟩
          · rintro ⟨-, hv, hop⟩
            cases hv
            rw [← hop]
      · next hmem =>
          constructor
          · intro h
            cases h
          · rintro ⟨h, -, -⟩
            exact absurd h hmem
  · next hnot =>
      constructor
      · intro h
        cases h
      · rintro ⟨-, hv, -⟩
        exact absurd hv (hnot _)

theorem isRouted_iff_operation? (m : Member) : m.IsRouted ↔ ∃ op, m.operation? = some op := by
  unfold IsRouted operation?
  cases m.value <;> simp [Value.isMap]

/-- The operations of a path item are those of its members. -/
theorem ofPathItem_eq (path : Scalar) (item : Entries) :
    Operation.ofPathItem path item = (ofItem path item).filterMap operation? := by
  rw [Operation.ofPathItem, ofItem, List.filterMap_map]
  apply List.filterMap_congr
  rintro ⟨key, value⟩ -
  simp only [Function.comp_apply, operation?, method, List.contains_iff_mem]
  cases value <;> rfl

theorem ofPaths_eq (paths : Entries) :
    Operation.ofPaths paths = (ofPaths paths).filterMap operation? := by
  rw [Operation.ofPaths, ofPaths, List.filterMap_flatMap]
  congr 1
  funext ⟨path, item⟩
  cases item with
  | map item => exact ofPathItem_eq path item
  | _ => rfl

/-- The operations of a document are those of its members. -/
theorem operationsOf_eq {document : Entries} {ops : List Operation}
    (h : Api.operationsOf document = .ok ops) : ops = (all document).filterMap operation? := by
  unfold Api.operationsOf at h
  simp only at h
  split at h
  · next hfalsy =>
      cases h
      unfold all
      split
      · next paths hpaths =>
          rw [hpaths] at hfalsy
          have hnil : paths = [] := by simpa [Value.truthy] using hfalsy
          rw [hnil]
          rfl
      · rfl
  · split at h
    · next paths hpaths =>
        cases h
        rw [all, hpaths]
        exact ofPaths_eq paths
    · cases h

end Member

/-! ## One route for each routed member -/

/-- The route that a member compiles to. -/
structure RouteOf (document : Entries) (basePath : String) (m : Member) (r : Route) : Prop where
  links : m.LinksTo document r.link
  method : r.link.method = m.method
  path : m.path = .text r.link.href
  template : r.template = .ofString (basePath ++ r.link.href)

namespace Member

/-- A member that a lookup by method and written path asks for. -/
def IsAt (method href : String) (m : Member) : Prop :=
  m.path = .text href ∧ m.method = Text.upper method

theorem LinksTo.unique {document : Entries} {m : Member} {l l' : Link}
    (h : m.LinksTo document l) (h' : m.LinksTo document l') : l = l' := by
  obtain ⟨op, hop, hl⟩ := h
  obtain ⟨op', hop', hl'⟩ := h'
  rw [hop] at hop'
  cases hop'
  rw [hl] at hl'
  cases hl'
  rfl

end Member

theorem RouteOf.unique {document : Entries} {basePath : String} {m : Member} {r r' : Route}
    (h : RouteOf document basePath m r) (h' : RouteOf document basePath m r') : r = r' := by
  obtain ⟨template, link⟩ := r
  obtain ⟨template', link'⟩ := r'
  have hlink : link = link' := h.links.unique h'.links
  subst hlink
  have htemplate : template = template' := h.template.trans h'.template.symm
  rw [htemplate]

namespace Api

/-- The route of a member's operation has the member's method and path. -/
theorem routeOf_route {document : Entries} {basePath : String} {m : Member} {op : Operation}
    {r : Route} (hop : m.operation? = some op) (h : route document basePath op = .ok r) :
    RouteOf document basePath m r := by
  obtain ⟨link, hlink, hr⟩ := Outcome.bind_eq_ok.1 h
  cases hr
  obtain ⟨declared, hfields⟩ := Operation.link_eq_ok.1 hlink
  obtain ⟨-, -, hop'⟩ := Member.operation?_eq_some.1 hop
  refine ⟨⟨op, hop, hlink⟩, ?_, ?_, rfl⟩
  · rw [hfields.method, hop']
  · rw [← hfields.path, hop']

/-! ## Compiling -/

theorem headingOf_basePath {document : Entries} {heading : Heading}
    (h : headingOf document = .ok heading) : basePathOf document = .ok heading.basePath := by
  unfold headingOf at h
  simp only at h
  split at h
  · cases h
  · split at h
    · cases h
    · obtain ⟨basePath, hbase, h⟩ := Outcome.bind_eq_ok.1 h
      cases h
      exact hbase

/-- Filing routes one after the other groups them by method. -/
theorem filed_eq (routes : List Route) : filed routes = grouped (fun r => r.link.method) routes :=
  foldl_insert_eq_grouped (fun r : Route => r.link.method) routes

/-- A document that compiles has a route for each of its routed members, in document order, and
    these routes grouped by method. -/
theorem routes_of_compile {document : Entries} {defaults : Defaults} {api : Api}
    (h : compile document defaults = .ok api) :
    basePathOf document = .ok api.basePath ∧ api.defaults = defaults ∧
      ∃ routes, List.Forall₂ (RouteOf document api.basePath) (Member.routed document) routes ∧
        api.routes = grouped (fun r => r.link.method) routes := by
  obtain ⟨heading, hheading, h⟩ := Outcome.bind_eq_ok.1 h
  obtain ⟨operations, hops, h⟩ := Outcome.bind_eq_ok.1 h
  obtain ⟨routes, hroutes, h⟩ := Outcome.bind_eq_ok.1 h
  cases h
  refine ⟨headingOf_basePath hheading, rfl, routes, ?_, filed_eq routes⟩
  rw [Member.operationsOf_eq hops] at hroutes
  refine List.Forall₂.imp ?_
    ((Outcome.mapM_filterMap_eq_ok Member.isRouted_iff_operation?).1 hroutes)
  rintro m r ⟨op, hop, hr⟩
  exact routeOf_route hop hr

/-! ## Looking up -/

variable {document : Entries} {api : Api} {routes : List Route}

theorem routesOf_eq (hapi : api.routes = grouped (fun r => r.link.method) routes)
    (method : String) :
    api.routesOf method = routes.filter fun r => r.link.method == Text.upper method := by
  rw [routesOf, hapi]
  exact find?_grouped (fun r : Route => r.link.method) routes (Text.upper method)

/-- The links are those of the routes, group by group. -/
theorem links_eq (hapi : api.routes = grouped (fun r => r.link.method) routes) :
    api.links = ((grouped (fun r => r.link.method) routes).flatMap Prod.snd).map
      fun r => (r.link.method, r.link) := by
  rw [links, hapi, List.map_flatMap]
  apply List.flatMap_congr
  intro e he
  apply List.map_congr_left
  intro r hr
  rw [((mem_grouped he).2 r hr).2]

theorem links_perm (hapi : api.routes = grouped (fun r => r.link.method) routes) :
    api.links.Perm (routes.map fun r => (r.link.method, r.link)) := by
  rw [links_eq hapi]
  exact (perm_grouped (fun r : Route => r.link.method) routes).map _

/-- The search behind a lookup by written path. -/
theorem findLink?_eq (hapi : api.routes = grouped (fun r => r.link.method) routes)
    (method href : String) :
    api.findLink? method href = routes.findSome? fun r =>
      if r.link.method == Text.upper method && r.link.href == href then some r.link else none := by
  rw [findLink?, routesOf_eq hapi, map_find?, findSome?_filter]
  congr 1
  funext r
  cases r.link.method == Text.upper method <;> rfl

/-- A route answers a lookup by written path when its member is the one asked for. -/
theorem isAt_iff {basePath : String} {m : Member} {r : Route} (h : RouteOf document basePath m r)
    (method href : String) :
    m.IsAt method href ↔ (if r.link.method == Text.upper method && r.link.href == href
      then some r.link else none).isSome := by
  rw [Member.IsAt, h.path, ← h.method]
  by_cases hm : r.link.method = Text.upper method
  · by_cases hp : r.link.href = href
    · simp [hm, hp]
    · simp [hp]
  · simp [hm]

/-- **What compiling a document gives.** Its routes are those of the routed members, one for each
    and in document order, under their methods, the methods in the order of their first use; no
    method is without routes. All links are those of the routed members, and a lookup by written
    path finds the link of the first member that is there. -/
theorem compile_routes {document : Entries} {defaults : Defaults} {api : Api}
    (h : compile document defaults = .ok api) :
    ∃ routes,
      List.Forall₂ (RouteOf document api.basePath) (Member.routed document) routes ∧
      api.routes = grouped (fun r => r.link.method) routes ∧
      (∀ e ∈ api.routes, e.2 ≠ [] ∧ ∀ r ∈ e.2, r.link.method = e.1) ∧
      api.links.Perm (routes.map fun r => (r.link.method, r.link)) ∧
      ∀ method href,
        (∀ link, api.findLink? method href = some link ↔
          ∃ m, First (Member.IsAt method href) (Member.routed document) m ∧
            m.LinksTo document link) ∧
        (api.findLink? method href = none ↔
          ∀ m ∈ Member.routed document, ¬ m.IsAt method href) := by
  obtain ⟨-, -, routes, hroutes, hapi⟩ := routes_of_compile h
  refine ⟨routes, hroutes, hapi, ?_, links_perm hapi, ?_⟩
  · intro e he
    rw [hapi] at he
    exact ⟨(mem_grouped he).1, fun r hr => ((mem_grouped he).2 r hr).2⟩
  · intro method href
    rw [findLink?_eq hapi]
    constructor
    · intro link
      rw [First.findSome?_eq_some hroutes (fun _ _ _ => RouteOf.unique)
        fun _ _ hr => isAt_iff hr method href]
      constructor
      · rintro ⟨m, r, hfirst, hr, hlink⟩
        split at hlink
        · cases hlink
          exact ⟨m, hfirst, hr.links⟩
        · cases hlink
      · rintro ⟨m, hfirst, hlinks⟩
        obtain ⟨r, -, hr⟩ := exists_of_forall₂ hroutes hfirst.mem
        have hsome := (isAt_iff hr method href).1 hfirst.holds
        refine ⟨m, r, hfirst, hr, ?_⟩
        split at hsome
        · next hcond => rw [if_pos hcond, hr.links.unique hlinks]
        · cases hsome
    · exact First.findSome?_eq_none hroutes fun _ _ hr => isAt_iff hr method href

/-- A document whose paths overlap, with a method written in two ways and members that are not
    routed. -/
def petDocument : Entries :=
  [(.text "swagger", .text "2.0"), (.text "definitions", .map []),
    (.text "basePath", .text "/v1//"),
    (.text "paths", .map
      [(.text "/pets", .map
          [(.text "Get", .map []), (.text "GET", .map []), (.text "head", .map []),
            (.text "put", .null), (.text "parameters", .list [])]),
        (.text "/none", .null),
        (.text "/pets/{id}", .map [(.text "get", .map []), (.text "post", .map [])]),
        (.text "/pets/mine", .map [(.text "get", .map [])])])]

theorem petDocument_compiles : ∃ api, compile petDocument .standard = .ok api :=
  Outcome.exists_of_toBool (by decide +kernel)

theorem petDocument_routes :
    (Member.routed petDocument).map Member.method = ["GET", "GET", "GET", "POST", "GET"] ∧
      ∃ api routes, compile petDocument .standard = .ok api ∧
        List.Forall₂ (RouteOf petDocument api.basePath) (Member.routed petDocument) routes ∧
        api.routes = grouped (fun r => r.link.method) routes := by
  obtain ⟨api, hapi⟩ := petDocument_compiles
  obtain ⟨routes, hroutes, hgrouped, -⟩ := compile_routes hapi
  exact ⟨by decide +kernel, api, routes, hapi, hroutes, hgrouped⟩

end Api

end ApiRouter

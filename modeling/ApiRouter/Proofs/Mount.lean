import ApiRouter.Proofs.Outline

set_option autoImplicit false

/-! # Mount points and base paths

There are two ways to put a document under a path. A mount point is taken off a path before it is
looked up; a base path is part of every template. A lookup cannot tell which of the two was taken, as
long as the path is one that a template reads as it is written.

A request says itself where it is mounted, and what is below. A router looks for the path below, and
takes its own mount point off that once more. -/

namespace ApiRouter

/-! ## The same document under another base path -/

/-- Two documents that say the same but for their base paths. -/
def SameBesideBasePath (document other : Entries) : Prop :=
  ∀ k, k ≠ "basePath" → Entries.get other k = Entries.get document k

/-- A route whose template begins with a base path. -/
def Route.under (base : String) (r : Route) : Route :=
  ⟨.ofString (base ++ r.link.href), r.link⟩

theorem SameBesideBasePath.insert (document : Entries) (v : Value) :
    SameBesideBasePath document (Entries.insert document "basePath" v) := by
  intro k hk
  rw [Entries.get, Entries.find?_insert, if_neg (Ne.symm hk), Entries.get]

namespace Api

theorem dropSlashes_append {base : String} (h : base.toList.getLast? ≠ some '/') (n : Nat) :
    dropSlashes (base ++ String.ofList (List.replicate n '/')) = base := by
  have hreverse : (base ++ String.ofList (List.replicate n '/')).toList.reverse
      = List.replicate n '/' ++ base.toList.reverse := by simp
  have hstop : ∀ c ∈ base.toList.reverse.head?, (c == '/') = false := by
    rw [List.head?_reverse]
    intro c hc
    simpa using fun hslash : c = '/' => h (hslash ▸ hc)
  rw [dropSlashes, hreverse, dropWhile_append_of_stop (by simp) hstop, List.reverse_reverse,
    String.ofList_toList]

/-- A document with a base path that is written with slashes at its end. -/
theorem basePathOf_of_text {document : Entries} {base : String} {n : Nat}
    (h : Entries.get document "basePath" = .text (base ++ String.ofList (List.replicate n '/')))
    (hbase : base ≠ "") (hslash : base.toList.getLast? ≠ some '/') :
    basePathOf document = .ok base := by
  have htruthy : (Value.text (base ++ String.ofList (List.replicate n '/'))).truthy = true := by
    simp [Value.truthy, hbase]
  simp only [basePathOf, h, htruthy, Bool.not_true, Bool.false_eq_true, if_false,
    dropSlashes_append hslash]

theorem basePathOf_of_not_truthy {document : Entries}
    (h : (Entries.get document "basePath").truthy = false) : basePathOf document = .ok "" := by
  simp only [basePathOf, h, Bool.not_false, if_true]

variable {document other : Entries}

theorem headingOf_rebased (hsame : SameBesideBasePath document other) {heading : Heading}
    {base : String} (h : headingOf document = .ok heading) (hbase : basePathOf other = .ok base) :
    headingOf other = .ok ⟨heading.definitions, base⟩ := by
  unfold headingOf at h ⊢
  rw [hsame "swagger" (by decide), hsame "definitions" (by decide), hbase]
  simp only at h ⊢
  split at h
  · cases h
  · next hversion =>
      rw [if_neg hversion]
      split at h
      · cases h
      · next definitions hdefinitions =>
          obtain ⟨base', -, h⟩ := Outcome.bind_eq_ok.1 h
          cases h
          simp only [Outcome.ok_bind]

theorem operationsOf_rebased (hsame : SameBesideBasePath document other) :
    operationsOf other = operationsOf document := by
  rw [operationsOf, operationsOf, hsame "paths" (by decide)]

/-- No part of a link comes from the base path. -/
theorem link_rebased (hsame : SameBesideBasePath document other) (op : Operation) :
    op.link other = op.link document :=
  Operation.link_of_mediaTypes (hsame "consumes" (by decide)) (hsame "produces" (by decide)) op

theorem route_rebased (hsame : SameBesideBasePath document other) {base base' : String}
    {op : Operation} {r : Route} (h : route document base op = .ok r) :
    route other base' op = .ok (r.under base') := by
  obtain ⟨link, hlink, hr⟩ := Outcome.bind_eq_ok.1 h
  cases hr
  rw [route, link_rebased hsame, hlink]
  rfl

/-- A document that compiles does so under another base path, with the same links under templates
    that begin with it. -/
theorem compile_rebased {defaults : Defaults} {api : Api} {base : String}
    (hsame : SameBesideBasePath document other) (h : compile document defaults = .ok api)
    (hbase : basePathOf other = .ok base) :
    ∃ routes, api.routes = filed routes ∧
      (∀ r ∈ routes, r.template = .ofString (api.basePath ++ r.link.href)) ∧
      compile other defaults
        = .ok ⟨api.definitions, base, defaults, filed (routes.map (Route.under base))⟩ := by
  obtain ⟨heading, hheading, h⟩ := Outcome.bind_eq_ok.1 h
  obtain ⟨operations, hoperations, h⟩ := Outcome.bind_eq_ok.1 h
  obtain ⟨routes, hroutes, h⟩ := Outcome.bind_eq_ok.1 h
  cases h
  have hrows := Outcome.mapM_eq_ok.1 hroutes
  have htemplates : ∀ r ∈ routes, r.template = .ofString (heading.basePath ++ r.link.href) := by
    intro r hr
    obtain ⟨op, -, hop⟩ := exists_of_forall₂ hrows.flip hr
    obtain ⟨link, -, hr⟩ := Outcome.bind_eq_ok.1 hop
    cases hr
    rfl
  have hrebased : operations.mapM (route other base) = .ok (routes.map (Route.under base)) := by
    rw [Outcome.mapM_eq_ok, List.forall₂_map_right_iff]
    exact hrows.imp fun op r hr => route_rebased hsame hr
  refine ⟨routes, rfl, htemplates, Outcome.bind_eq_ok.2 ⟨_, headingOf_rebased hsame hheading hbase, ?_⟩⟩
  rw [operationsOf_rebased hsame, hoperations, Outcome.ok_bind, hrebased, Outcome.ok_bind]

end Api

namespace Router

/-! ## Paths under a mount point -/

variable (api : Api) (mount path method : String) (options : CheckOptions)

theorem localPath_append : (ofApi api (some mount) options).localPath (mount ++ path) = path := by
  rcases localPath_below api (some mount) options (mount ++ path) with h | ⟨hnot, -⟩
  · exact (String.append_right_inj mount).1 h.symm
  · exact absurd rfl (hnot path)

theorem localPath_of_outside {mount path : String} (h : ∀ rest, path ≠ mount ++ rest) :
    (ofApi api (some mount) options).localPath path = path := by
  rcases localPath_below api (some mount) options path with hinside | ⟨-, heq⟩
  · exact absurd hinside (h _)
  · exact heq

/-- Under a mount point, what is found is what the rest of the path leads to. -/
theorem find?_mounted : (ofApi api (some mount) options).find? method (mount ++ path)
    = (ofApi api none options).find? method path := by
  rw [find?, localPath_append]
  rfl

theorem find?_of_outside {mount path : String} (h : ∀ rest, path ≠ mount ++ rest) :
    (ofApi api (some mount) options).find? method path
      = (ofApi api none options).find? method path := by
  rw [find?, localPath_of_outside api options h]
  rfl

/-- **Requests and paths.** A request that is mounted where the router is leads where its whole path
    does, unless what it asks for below the mount point starts with the mount point again. Then the
    whole path is taken for what is below, and the request for what is below that. -/
theorem findRequest?_mounted {request : Request} (h : request.scriptName = mount) :
    ((∀ rest, request.pathInfo ≠ mount ++ rest) →
        (ofApi api (some mount) options).findRequest? request
          = (ofApi api (some mount) options).find? request.method request.path) ∧
      ∀ rest, request.pathInfo = mount ++ rest →
        (ofApi api (some mount) options).find? request.method request.path
            = (ofApi api none options).find? request.method (mount ++ rest) ∧
          (ofApi api (some mount) options).findRequest? request
            = (ofApi api none options).find? request.method rest := by
  have hpath : (ofApi api (some mount) options).find? request.method request.path
      = (ofApi api none options).find? request.method request.pathInfo := by
    rw [Request.path, h, find?_mounted]
  constructor
  · intro hnot
    rw [hpath, findRequest?, find?_of_outside api request.method options hnot]
  · intro rest hrest
    rw [hpath, findRequest?, hrest, find?_mounted]
    exact ⟨rfl, rfl⟩

/-- Paths of which one is another below `/api`. -/
def shopDocument : Entries :=
  [(.text "swagger", .text "2.0"), (.text "definitions", .map []),
    (.text "paths", .map
      [(.text "/pets", .map [(.text "get", .map [])]),
        (.text "/pets/{id}", .map [(.text "get", .map []), (.text "delete", .map [])]),
        (.text "/api/pets", .map [(.text "Get", .map [])])])]

theorem shopDocument_compiles : ∃ api, Api.compile shopDocument .standard = .ok api :=
  Outcome.exists_of_toBool (by decide +kernel)

/-- A request to the shop when it is mounted under `/api`. -/
def shopRequest (pathInfo : String) : Request :=
  ⟨"get", pathInfo, "/api", [], [], [], .null, none⟩

theorem findRequest?_shopRequest :
    ∃ api, Api.compile shopDocument .standard = .ok api ∧
      (ofApi api (some "/api") .standard).findRequest? (shopRequest "/pets/7")
        = (ofApi api (some "/api") .standard).find? "get" "/api/pets/7" := by
  obtain ⟨api, hapi⟩ := shopDocument_compiles
  have hbelow : ∀ rest, "/pets/7" ≠ "/api" ++ rest := by
    intro rest h
    have hnone : below? "/api" "/pets/7" = none := by decide +kernel
    rw [below?_eq_some.2 h] at hnone
    cases hnone
  exact ⟨api, hapi, (findRequest?_mounted api "/api" .standard rfl).1 hbelow⟩

/-- The request asks for `/api/pets` below the mount point, and gets `/pets`. -/
theorem findRequest?_doubled :
    ∃ api, Api.compile shopDocument .standard = .ok api ∧
      ((ofApi api (some "/api") .standard).find? "get" (shopRequest "/api/pets").path).map
          (fun f => f.link.href) = some "/api/pets" ∧
      ((ofApi api (some "/api") .standard).findRequest? (shopRequest "/api/pets")).map
          (fun f => f.link.href) = some "/pets" := by
  have hfound : (Api.compile shopDocument .standard).toOption.map (fun api =>
      (((ofApi api (some "/api") .standard).find? "get" (shopRequest "/api/pets").path).map
          (fun f => f.link.href),
        ((ofApi api (some "/api") .standard).findRequest? (shopRequest "/api/pets")).map
          (fun f => f.link.href))) = some (some "/api/pets", some "/pets") := by
    decide +kernel
  obtain ⟨api, hapi, hfacts⟩ := Outcome.exists_of_toOption_map hfound
  obtain ⟨hpath, hrequest⟩ := Prod.mk.inj hfacts
  exact ⟨api, hapi, hpath, hrequest⟩

/-! ## Paths under a base path -/

theorem answer?_under {base : String} (hbrace : '\x7b' ∉ base.toList) {r : Route}
    (hr : r.template = .ofString r.link.href) (method path : String) :
    answer? method (base ++ path) (r.under base) = answer? method path r := by
  rw [answer?, answer?, Route.under, Template.captures?_append_append hbrace, hr]

theorem answer?_under_of_outside {base path : String} (hbrace : '\x7b' ∉ base.toList)
    (hpath : ∀ rest, path ≠ base ++ rest) (method : String) (r : Route) :
    answer? method path (r.under base) = none := by
  rw [answer?, Route.under, Template.captures?_append_eq_none hbrace hpath]
  split
  · rfl
  · rfl

/-- **A base path and a mount point are interchangeable.** Take a document without a base path that
    compiles, and a text that is not empty, has no opening brace and does not end with a slash. With
    this text as its base path, slashes behind it or not, the document compiles as well. On the text
    and a further path, it then leads where the document without it does under the text as a mount
    point, and where that does by itself on the further path. On any other path it leads nowhere. -/
theorem find?_basePath {document other : Entries} {defaults : Defaults} {api : Api} {base : String}
    {n : Nat} (h : Api.compile document defaults = .ok api)
    (hnone : (Entries.get document "basePath").truthy = false)
    (hsame : SameBesideBasePath document other)
    (hwritten : Entries.get other "basePath"
      = .text (base ++ String.ofList (List.replicate n '/')))
    (hbase : base ≠ "") (hbrace : '\x7b' ∉ base.toList) (hslash : base.toList.getLast? ≠ some '/') :
    ∃ api', Api.compile other defaults = .ok api' ∧ ∀ options method,
      (∀ path,
        (ofApi api' none options).find? method (base ++ path)
            = (ofApi api none options).find? method path ∧
          (ofApi api (some base) options).find? method (base ++ path)
            = (ofApi api none options).find? method path) ∧
      ∀ path, (∀ rest, path ≠ base ++ rest) →
        (ofApi api' none options).find? method path = none := by
  obtain ⟨hempty, -, -⟩ := Api.routes_of_compile h
  rw [Api.basePathOf_of_not_truthy hnone, Except.ok.injEq] at hempty
  obtain ⟨routes, hroutes, htemplates, hcompile⟩ :=
    Api.compile_rebased hsame h (Api.basePathOf_of_text hwritten hbase hslash)
  have htemplate : ∀ r ∈ routes, r.template = .ofString r.link.href := by
    intro r hr
    rw [htemplates r hr, ← hempty, String.empty_append]
  refine ⟨_, hcompile, fun options method => ⟨fun path => ⟨?_, ?_⟩, fun path hpath => ?_⟩⟩
  · rw [find?_eq (Api.filed_eq _), find?_eq (hroutes.trans (Api.filed_eq _)), List.findSome?_map]
    exact findSome?_congr fun r hr => answer?_under hbrace (htemplate r hr) method path
  · exact find?_mounted api base path method options
  · rw [find?_eq (Api.filed_eq _), List.findSome?_eq_none_iff]
    intro r' hr'
    obtain ⟨r, -, rfl⟩ := List.mem_map.1 hr'
    exact answer?_under_of_outside hbrace hpath method r

theorem find?_shop_basePath :
    ∃ api api', Api.compile shopDocument .standard = .ok api ∧
      Api.compile (Entries.insert shopDocument "basePath" (.text "/v1//")) .standard = .ok api' ∧
      (ofApi api' none .standard).find? "get" "/v1/pets/7"
        = (ofApi api none .standard).find? "get" "/pets/7" ∧
      ((ofApi api none .standard).find? "get" "/pets/7").map Found.captures
        = some [("id", "7")] := by
  have hcaptures : (Api.compile shopDocument .standard).toOption.map (fun api =>
      ((ofApi api none .standard).find? "get" "/pets/7").map Found.captures)
        = some (some [("id", "7")]) := by
    decide +kernel
  obtain ⟨api, hapi, hcaptures⟩ := Outcome.exists_of_toOption_map hcaptures
  obtain ⟨api', hapi', hfind⟩ := @find?_basePath shopDocument _ .standard api "/v1" 2 hapi
    (by decide +kernel) (SameBesideBasePath.insert shopDocument (.text "/v1//"))
    (by decide +kernel) (by decide) (by decide) (by decide)
  exact ⟨api, api', hapi, hapi', ((hfind .standard "get").1 "/pets/7").1,
    hcaptures⟩

end Router

end ApiRouter

import ApiRouter.Proofs.Compilation

set_option autoImplicit false

/-! # Compiling is local

What a path item compiles to does not depend on the other paths of the document. So the paths of a
document may be cut anywhere: the document compiles to the routes of the first part followed by those
of the second, and what ends the compilation of a part ends that of the whole. Of the document itself
an operation takes its media types and the base path, and a document compiles when all its operations
do. -/

namespace ApiRouter

/-- Two documents that say the same but for their paths. -/
def SameBesidePaths (document other : Entries) : Prop :=
  ∀ k, k ≠ "paths" → Entries.get other k = Entries.get document k

/-- A route is that of a member in all documents that take and give the same media types. -/
theorem RouteOf.of_mediaTypes {document other : Entries}
    (hconsumes : Entries.get other "consumes" = Entries.get document "consumes")
    (hproduces : Entries.get other "produces" = Entries.get document "produces")
    {basePath : String} {m : Member} {r : Route} (h : RouteOf document basePath m r) :
    RouteOf other basePath m r := by
  obtain ⟨op, hop, hlink⟩ := h.links
  have hlinks : m.LinksTo other r.link :=
    ⟨op, hop, by rw [Operation.link_of_mediaTypes hconsumes hproduces, hlink]⟩
  exact ⟨hlinks, h.method, h.path, h.template⟩

namespace Api

variable {document other : Entries} {defaults : Defaults}

/-! ## The parts of compiling -/

theorem headingOf_of_same (h : SameBesidePaths document other) :
    headingOf other = headingOf document := by
  simp only [headingOf, basePathOf, h "swagger" (by decide), h "definitions" (by decide),
    h "basePath" (by decide)]

theorem route_of_same (h : SameBesidePaths document other) (basePath : String) :
    route other basePath = route document basePath := by
  funext op
  rw [route, route,
    Operation.link_of_mediaTypes (h "consumes" (by decide)) (h "produces" (by decide))]

/-- Paths that are a mapping are always read, even when there are none. -/
theorem operationsOf_of_map {paths : Entries} (h : Entries.get document "paths" = .map paths) :
    operationsOf document = .ok (Operation.ofPaths paths) := by
  simp only [operationsOf, h]
  cases paths with
  | nil => rfl
  | cons e rest => rfl

theorem ofPaths_append (paths more : Entries) :
    Operation.ofPaths (paths ++ more) = Operation.ofPaths paths ++ Operation.ofPaths more :=
  List.flatMap_append

/-- A document with a heading compiles as its operations do. -/
theorem compile_of_heading {heading : Heading} {paths : Entries}
    (hheading : headingOf document = .ok heading)
    (hpaths : Entries.get document "paths" = .map paths) :
    compile document defaults
      = (fun routes => ⟨heading.definitions, heading.basePath, defaults, filed routes⟩)
        <$> (Operation.ofPaths paths).mapM (route document heading.basePath) := by
  rw [compile, hheading, Outcome.ok_bind, operationsOf_of_map hpaths, Outcome.ok_bind]
  cases (Operation.ofPaths paths).mapM (route document heading.basePath) with
  | error e => rfl
  | ok routes => rfl

/-- The routes of a method, for two rows of routes one after the other. -/
theorem find?_filed_append (routes more : List Route) (method : String) :
    (Ordered.find? (filed (routes ++ more)) method).getD []
      = (Ordered.find? (filed routes) method).getD []
        ++ (Ordered.find? (filed more) method).getD [] := by
  have hgroup (rs : List Route) : (Ordered.find? (filed rs) method).getD []
      = rs.filter fun r => r.link.method == method := by
    rw [filed_eq]
    exact find?_grouped (fun r : Route => r.link.method) rs method
  rw [hgroup, hgroup, hgroup, List.filter_append]

/-! ## The whole of a document -/

/-- Operations that follow one another compile one after the other: the first failure is that of
    the first part in which there is one. -/
theorem mapM_route_append (basePath : String) (ops more : List Operation) :
    (ops ++ more).mapM (route document basePath) = (do
      let routes ← ops.mapM (route document basePath)
      let others ← more.mapM (route document basePath)
      .ok (routes ++ others)) :=
  List.mapM_append

/-- A document compiles exactly when it has a heading and each of its routed members has a link. -/
theorem exists_compile_iff {paths : Entries} (hpaths : Entries.get document "paths" = .map paths) :
    (∃ api, compile document defaults = .ok api) ↔
      (∃ heading, headingOf document = .ok heading) ∧
        ∀ m ∈ Member.routed document, ∃ link, m.LinksTo document link := by
  constructor
  · rintro ⟨api, h⟩
    obtain ⟨heading, hheading, -⟩ := Outcome.bind_eq_ok.1 h
    obtain ⟨-, -, routes, hroutes, -⟩ := routes_of_compile h
    refine ⟨⟨heading, hheading⟩, fun m hm => ?_⟩
    obtain ⟨r, -, hr⟩ := exists_of_forall₂ hroutes hm
    exact ⟨r.link, hr.links⟩
  · rintro ⟨⟨heading, hheading⟩, hlinks⟩
    have hroutes : ∀ op ∈ Operation.ofPaths paths,
        ∃ r, route document heading.basePath op = .ok r := by
      intro op hop
      rw [Member.ofPaths_eq] at hop
      obtain ⟨m, hm, hmop⟩ := List.mem_filterMap.1 hop
      have hrouted : m ∈ Member.routed document := by
        rw [Member.mem_routed, Member.all, hpaths]
        exact ⟨hm, (Member.isRouted_iff_operation? m).2 ⟨op, hmop⟩⟩
      obtain ⟨link, op', hop', hlink⟩ := hlinks m hrouted
      rw [hmop] at hop'
      cases hop'
      exact ⟨⟨.ofString (heading.basePath ++ link.href), link⟩, by rw [route, hlink]; rfl⟩
    obtain ⟨routes, hall⟩ := Outcome.exists_mapM_eq_ok hroutes
    exact ⟨_, by rw [compile_of_heading hheading hpaths, hall]; rfl⟩

/-- **Compiling is local, and all or nothing.** Let the paths of a document be those of a first one
followed by those of a second, and let the three say the same besides. What ends the compilation of
the first ends that of the whole; if nothing does, what ends the compilation of the second does; and
otherwise every method of the whole has the routes that it has in the first, followed by those that
it has in the second. The route of a member is the same in all documents with the same media types
and base path, and a document compiles exactly when all its routed members have their links. -/
theorem compile_append {first second : Entries} {paths more : Entries}
    (hpaths : Entries.get document "paths" = .map (paths ++ more))
    (hfirst : Entries.get first "paths" = .map paths)
    (hsecond : Entries.get second "paths" = .map more)
    (hsame : SameBesidePaths document first) (hsame' : SameBesidePaths document second) :
    (∀ e, compile first defaults = .error e → compile document defaults = .error e) ∧
      (∀ api e, compile first defaults = .ok api → compile second defaults = .error e →
        compile document defaults = .error e) ∧
      (∀ api api', compile first defaults = .ok api → compile second defaults = .ok api' →
        ∃ routes, compile document defaults = .ok { api with routes := routes } ∧
          ∀ method, (Ordered.find? routes method).getD []
            = (Ordered.find? api.routes method).getD []
              ++ (Ordered.find? api'.routes method).getD []) ∧
      (∀ other, Entries.get other "consumes" = Entries.get document "consumes" →
        Entries.get other "produces" = Entries.get document "produces" →
        ∀ basePath m r, RouteOf other basePath m r ↔ RouteOf document basePath m r) ∧
      ((∃ api, compile document defaults = .ok api) ↔
        (∃ heading, headingOf document = .ok heading) ∧
          ∀ m ∈ Member.routed document, ∃ link, m.LinksTo document link) := by
  rw [← and_assoc, ← and_assoc]
  refine ⟨?_, fun other hconsumes hproduces basePath m r => ?_, exists_compile_iff hpaths⟩
  · cases hheading : headingOf document with
    | error e =>
        -- nothing is compiled in any of the three, for the same reason
        have hfails {d : Entries} (hd : SameBesidePaths document d) :
            compile d defaults = .error e := by
          rw [compile, headingOf_of_same hd, hheading]
          rfl
        rw [hfails hsame, hfails hsame', hfails (fun k _ => rfl)]
        refine ⟨⟨fun e' he => he, ?_⟩, ?_⟩
        · rintro api e' ⟨⟩
        · rintro api api' ⟨⟩
    | ok heading =>
        rw [compile_of_heading ((headingOf_of_same hsame).trans hheading) hfirst,
          compile_of_heading ((headingOf_of_same hsame').trans hheading) hsecond,
          compile_of_heading hheading hpaths, ofPaths_append, mapM_route_append,
          route_of_same hsame, route_of_same hsame']
        cases (Operation.ofPaths paths).mapM (route document heading.basePath) with
        | error e =>
            refine ⟨⟨fun e' he => he, ?_⟩, ?_⟩
            · rintro api e' ⟨⟩
            · rintro api api' ⟨⟩
        | ok routes =>
            cases (Operation.ofPaths more).mapM (route document heading.basePath) with
            | error e =>
                refine ⟨⟨?_, fun api e' _ he => he⟩, ?_⟩
                · rintro e' ⟨⟩
                · rintro api api' - ⟨⟩
            | ok others =>
                refine ⟨⟨?_, ?_⟩, ?_⟩
                · rintro e' ⟨⟩
                · rintro api e' - ⟨⟩
                · rintro api api' ⟨⟩ ⟨⟩
                  exact ⟨filed (routes ++ others), rfl, find?_filed_append routes others⟩
  · exact ⟨RouteOf.of_mediaTypes hconsumes.symm hproduces.symm,
      RouteOf.of_mediaTypes hconsumes hproduces⟩

/-- A document with these paths. -/
def withPaths (paths : Entries) : Entries :=
  [(.text "swagger", .text "2.0"), (.text "definitions", .map []),
    (.text "consumes", .texts ["text/csv"]), (.text "paths", .map paths)]

def petPaths : Entries :=
  [(.text "/pets", .object [("get", .map []), ("post", .map [])])]

def orderPaths : Entries :=
  [(.text "/orders", .object [("put", .map []), ("get", .map [])])]

/-- A path with an operation whose only parameter has no name. -/
def namelessPaths : Entries :=
  [(.text "/names", .object [("get", .object [("parameters", .list [.map []])])])]

theorem sameBesidePaths_withPaths (paths more : Entries) :
    SameBesidePaths (withPaths paths) (withPaths more) := by
  intro k hk
  have hpaths : (Scalar.text "paths" == Scalar.text k) = false := by
    rw [Bool.eq_false_iff]
    exact fun h => hk (Scalar.text.inj ((Scalar.rigid_text k).beq_left _ |>.1 h)).symm
  simp only [Entries.get, Entries.find?, withPaths, Ordered.find?, hpaths, Bool.false_eq_true,
    if_false]

/-- The links under a method, by what they take and where they are. -/
def linksUnder (routes : List (String × List Route)) (method : String) : List (Value × String) :=
  ((Ordered.find? routes method).getD []).map fun r => (r.link.encType, r.link.href)

theorem compile_append_pets :
    (∃ e, compile (withPaths namelessPaths) .standard = .error e ∧
      compile (withPaths (petPaths ++ namelessPaths)) .standard = .error e) ∧
    ∃ api, compile (withPaths (petPaths ++ orderPaths)) .standard = .ok api ∧
      linksUnder api.routes "GET"
        = [(.text "text/csv", "/pets"), (.text "text/csv", "/orders")] := by
  have hpets : ((compile (withPaths petPaths) .standard).toOption.map
      fun api => linksUnder api.routes "GET") = some [(.text "text/csv", "/pets")] := by
    decide +kernel
  have horders : ((compile (withPaths orderPaths) .standard).toOption.map
      fun api => linksUnder api.routes "GET") = some [(.text "text/csv", "/orders")] := by
    decide +kernel
  obtain ⟨api, hapi, hlinks⟩ := Outcome.exists_of_toOption_map hpets
  obtain ⟨api', hapi', hlinks'⟩ := Outcome.exists_of_toOption_map horders
  constructor
  · cases hnames : compile (withPaths namelessPaths) .standard with
    | ok api =>
        have hfails : (compile (withPaths namelessPaths) .standard).toBool = false := by
          decide +kernel
        rw [hnames] at hfails
        cases hfails
    | error e =>
        exact ⟨e, rfl, (compile_append rfl rfl rfl (sameBesidePaths_withPaths _ _)
          (sameBesidePaths_withPaths _ _)).2.1 api e hapi hnames⟩
  · obtain ⟨routes, hwhole, hroutes⟩ := (compile_append rfl rfl rfl
      (sameBesidePaths_withPaths _ _) (sameBesidePaths_withPaths _ _)).2.2.1 api api' hapi hapi'
    refine ⟨_, hwhole, ?_⟩
    rw [linksUnder] at hlinks hlinks'
    rw [linksUnder, hroutes, List.map_append, hlinks, hlinks']
    rfl

end Api

end ApiRouter

import ApiRouter.Proofs.CommandRouting

set_option autoImplicit false

/-! # The table of routes

The table shows each route under the path that leads to it, mount point and base path included. Reading
it from the top is how routing can be told from outside: the first row of the method whose path fits is
the link that is shown, with the captures of that path. -/

namespace ApiRouter

/-! ## Routes from the top -/

namespace Router

/-- The mount point; without one there is nothing to take off. -/
def start (r : Router) : String := r.mount.getD ""

theorem below?_empty (path : String) : below? "" path = some path :=
  below?_eq_some.2 (String.empty_append).symm

theorem includes_eq (r : Router) (path : String) :
    r.includes path = (below? r.start path).isSome := by
  unfold includes start
  cases r.mount with
  | none => rw [Option.getD_none, below?_empty, Option.isSome_some]
  | some mount => rfl

theorem localPath_eq (r : Router) (path : String) :
    r.localPath path = (below? r.start path).getD path := by
  unfold localPath start
  cases r.mount with
  | none => rw [Option.getD_none, below?_empty, Option.getD_some]
  | some mount => rfl

/-- What a path under the mount point leads to is what the rest of it does. -/
theorem reached?_eq (r : Router) (method path : String) :
    r.reached? method path
      = (below? r.start path).bind (firstMatch? (r.api.routesOf method)) := by
  rw [reached?, includes_eq, find?, localPath_eq]
  cases below? r.start path with
  | none => rfl
  | some rest => rfl

end Router

namespace CommandLine

/-! ## Rows -/

/-- The captures of the path that a row shows, when the row is one of the method and its path fits. -/
def rowCaptures? (method path : String) (row : List Value) : Option (List (String × String)) :=
  match row with
  | .text shownMethod :: .text shownPath :: _ =>
    if shownMethod = Text.upper method then (Template.ofString shownPath).captures? path else none
  | _ => none

variable {w : Workspace} {o : Output} {c : Command} {router : Router}

/-- A row tells the captures on a path below the mount point from what comes after it. -/
theorem rowCaptures?_routeRow (hbrace : '\x7b' ∉ router.start.toList)
    (method path shownMethod : String) (link : Link) :
    rowCaptures? method path (routeRow router shownMethod link)
      = if shownMethod = Text.upper method then
          (Router.below? router.start path).bind
            (Template.ofString (router.api.basePath ++ link.href)).captures?
        else none := by
  have hshown : (Template.ofString (router.start ++ router.api.basePath ++ link.href)).captures? path
      = (Router.below? router.start path).bind
          (Template.ofString (router.api.basePath ++ link.href)).captures? := by
    rw [String.append_assoc, Template.captures?_append hbrace]
  rw [← hshown]
  rfl

/-- The routes of a router that a command compiles, under the templates of their paths. -/
theorem routes_of_compile (h : (compile w c).router = .ok router) :
    ∃ routes, router.api.routes = grouped (fun r => r.link.method) routes ∧
      ∀ r ∈ routes, r.template = .ofString (router.api.basePath ++ r.link.href) := by
  unfold compile at h
  split at h
  · cases h
  · obtain ⟨api, hapi, h⟩ := Outcome.bind_eq_ok.1 h
    cases h
    obtain ⟨-, -, routes, hroutes, hgrouped⟩ := Api.routes_of_compile hapi
    refine ⟨routes, hgrouped, fun r hr => ?_⟩
    obtain ⟨m, -, hm⟩ := exists_of_forall₂ hroutes.flip hr
    exact hm.template

/-- What a method and a path lead to is what the table gives for them, read from the top. -/
theorem reached?_eq_findSome? (h : (compile w c).router = .ok router)
    (hbrace : '\x7b' ∉ router.start.toList) (method path : String) :
    router.reached? method path = router.api.links.findSome? fun e =>
      (rowCaptures? method path (routeRow router e.1 e.2)).map (Found.mk e.2) := by
  obtain ⟨routes, hroutes, htemplates⟩ := routes_of_compile h
  -- rows of other methods give nothing, so that only the routes of the method are left
  have hother (r : Route) (hr : r.link.method ≠ Text.upper method) :
      (rowCaptures? method path (routeRow router r.link.method r.link)).map (Found.mk r.link)
        = none := by
    rw [rowCaptures?_routeRow hbrace, if_neg hr, Option.map_none]
  rw [Api.links_eq hroutes, List.findSome?_map, Router.reached?_eq, Api.routesOf_eq hroutes]
  refine Eq.trans ?_ (findSome?_grouped hother).symm
  cases hbelow : Router.below? router.start path with
  | none =>
      -- outside the mount point no row fits, as each shows a path below it
      rw [Option.bind_none, eq_comm, List.findSome?_eq_none_iff]
      intro r hr
      simp [rowCaptures?_routeRow hbrace, hbelow]
  | some rest =>
      rw [Option.bind_some, Router.firstMatch?]
      refine findSome?_congr fun r hr => ?_
      obtain ⟨hmem, hmethod⟩ := List.mem_filter.1 hr
      rw [rowCaptures?_routeRow hbrace, if_pos (beq_iff_eq.1 hmethod), hbelow, Option.bind_some,
        htemplates r hmem]

/-- **The table tells what is found.** Where the mount point has no opening brace, a method and a path
    lead to the link of the first row of the table that is one of the method and whose path fits, and
    this link is printed with the captures of the row. The code of what is not found comes out exactly
    when there is no such row, provided that the message can be printed. -/
theorem findLink_first_row (h : (compile w c).router = .ok router)
    (hbrace : ∀ mount, router.mount = some mount → '\x7b' ∉ mount.toList) (method path : String) :
    runCommand w o (c.doing .listRoutes) = printedRoutes w o (noticeText w c) router ∧
      (∀ e captures,
        First (fun e => (rowCaptures? method path (routeRow router e.1 e.2)).isSome)
          router.api.links e →
        rowCaptures? method path (routeRow router e.1 e.2) = some captures →
        runCommand w o (c.doing (.findLink method path))
            = printed w o (noticeText w c) none (.ok (Found.shown ⟨e.2, captures⟩)) ∧
          ¬ EndsWith (runCommand w o (c.doing (.findLink method path))) 4) ∧
      (EndsWith (runCommand w o (c.doing (.findLink method path))) 4 ↔
        (∀ row ∈ routeRows router, rowCaptures? method path row = none) ∧
          Shows o (refusal router method path)) ∧
      (o.colours = false ∨ '[' ∉ (refusal router method path).toList →
        Shows o (refusal router method path)) := by
  have hstart : '\x7b' ∉ router.start.toList := by
    unfold Router.start
    cases hmount : router.mount with
    | none => simp
    | some mount => exact hbrace mount hmount
  have hreached := reached?_eq_findSome? h hstart method path
  refine ⟨runCommand_listRoutes h, ?_, ?_, shows_of_bare⟩
  · intro e captures hfirst hcaptures
    have hfound : router.reached? method path = some ⟨e.2, captures⟩ := by
      rw [hreached, hfirst.findSome?_eq (by simp) (by simp [hcaptures]), hcaptures, Option.map_some]
    constructor
    · rw [runCommand_findLink h, findLink_eq, hfound]
    · rw [endsWith_findLink h, hfound]
      rintro ⟨hnone, -⟩
      cases hnone
  · rw [endsWith_findLink h, hreached, List.findSome?_eq_none_iff]
    simp only [Option.map_eq_none_iff, routeRows, List.forall_mem_map]

theorem findLink_first_row_pets :
    ∃ router e captures, (compile petWorkspace mountedCommand).router = .ok router ∧
      rowCaptures? "get" "/v1/pets" (routeRow router e.1 e.2) = some captures ∧
      First (fun e => (rowCaptures? "get" "/v1/pets" (routeRow router e.1 e.2)).isSome)
        router.api.links e ∧
      ¬ EndsWith (runCommand petWorkspace plainOutput
        (mountedCommand.doing (.findLink "get" "/v1/pets"))) 4 := by
  have hrouter : (compile petWorkspace mountedCommand).router.toOption.map (fun router =>
      (router.mount,
        router.api.links.map fun e => rowCaptures? "get" "/v1/pets" (routeRow router e.1 e.2)))
        = some (some "/v1", [some []]) := by
    decide +kernel
  obtain ⟨router, hcompile, hfacts⟩ := Outcome.exists_of_toOption_map hrouter
  obtain ⟨hmount, hlinks⟩ := Prod.mk.inj hfacts
  obtain ⟨e, hlinks, hcaptures⟩ := List.map_eq_singleton_iff.1 hlinks
  have hbrace (mount : String) (h : router.mount = some mount) : '\x7b' ∉ mount.toList := by
    cases hmount.symm.trans h
    decide
  have hfirst : First (fun e => (rowCaptures? "get" "/v1/pets" (routeRow router e.1 e.2)).isSome)
      router.api.links e := by
    rw [hlinks]
    exact .here (by rw [hcaptures]; rfl)
  exact ⟨router, e, [], hcompile, hcaptures, hfirst,
    ((findLink_first_row (o := plainOutput) hcompile hbrace "get" "/v1/pets").2.1 e [] hfirst
      hcaptures).2⟩

/-- A path in brackets: no row fits, but the message that says so closes a style that was never
    opened, and the run crashes. -/
theorem unopened_mark_crashes :
    ∃ router, (compile petWorkspace petCommand).router = .ok router ∧ router.mount = none ∧
      (∀ row ∈ routeRows router, rowCaptures? "GET" "/pets[/b]" row = none) ∧
      EndsWith (runCommand petWorkspace plainOutput
        (petCommand.doing (.findLink "GET" "/pets[/b]"))) 1 := by
  have hrouter : (compile petWorkspace petCommand).router.toOption.map (fun router =>
      (router.mount,
        decide (∀ row ∈ routeRows router, rowCaptures? "GET" "/pets[/b]" row = none)))
        = some (none, true) := by
    decide +kernel
  obtain ⟨router, hcompile, hfacts⟩ := Outcome.exists_of_toOption_map hrouter
  obtain ⟨hmount, hrows⟩ := Prod.mk.inj hfacts
  refine ⟨router, hcompile, hmount, of_decide_eq_true hrows, ?_⟩
  decide +kernel

end CommandLine

end ApiRouter

import ApiRouter.Proofs.Compilation
import ApiRouter.Router
import Mathlib.Data.List.TakeWhile

set_option autoImplicit false

/-! # Routing

What a router finds for a method and a path, in terms of the document that it was compiled from: the
first member whose method and template fit. The path is the one below the mount point, and the
template begins with the base path of the document, without the slashes at its end. -/

namespace ApiRouter

/-! ## The base path -/

/-- The base path as the document writes it; without one it is empty. -/
def writtenBasePath (document : Entries) : String :=
  match Entries.get document "basePath" with
  | .text s => s
  | _ => ""

/-- `base` is the text without the slashes at its end. -/
structure IsTrimmed (base text : String) : Prop where
  cut : ∃ n, text.toList = base.toList ++ List.replicate n '/'
  bare : base.toList.getLast? ≠ some '/'

namespace Api

theorem dropSlashes_isTrimmed (s : String) : IsTrimmed (dropSlashes s) s := by
  have hsplit : s.toList.reverse
      = s.toList.reverse.takeWhile (· == '/') ++ s.toList.reverse.dropWhile (· == '/') :=
    (List.takeWhile_append_dropWhile ..).symm
  have hslashes : s.toList.reverse.takeWhile (· == '/')
      = List.replicate (s.toList.reverse.takeWhile (· == '/')).length '/' :=
    List.eq_replicate_iff.2 ⟨rfl, fun c hc => by simpa using List.mem_takeWhile_imp hc⟩
  constructor
  · refine ⟨(s.toList.reverse.takeWhile (· == '/')).length, ?_⟩
    have hrev := congrArg List.reverse hsplit
    rw [List.reverse_reverse, List.reverse_append] at hrev
    rw [dropSlashes, String.toList_ofList]
    conv_lhs => rw [hrev, hslashes]
    simp
  · rw [dropSlashes, String.toList_ofList, List.getLast?_reverse]
    intro h
    have hnot := stop_dropWhile (· == '/') s.toList.reverse '/' h
    simp at hnot

/-- The base path of a compiled document is the one written in it, without slashes at its end. -/
theorem basePathOf_isTrimmed {document : Entries} {base : String}
    (h : basePathOf document = .ok base) : IsTrimmed base (writtenBasePath document) := by
  have hempty : IsTrimmed "" "" := ⟨⟨0, rfl⟩, by simp⟩
  unfold basePathOf at h
  unfold writtenBasePath
  simp only at h
  split at h
  · next hfalsy =>
      cases h
      split
      · next s hs =>
          have hs : s = "" := by simpa [hs, Value.truthy] using hfalsy
          rw [hs]
          exact hempty
      · exact hempty
  · split at h
    · next s hs =>
        cases h
        rw [hs]
        exact dropSlashes_isTrimmed s
    · cases h
    · cases h

end Api

/-! ## The path below the mount point -/

/-- `rest` is the path with the mount point taken off once, or as it is when it does not start
    with it. -/
def Below (mount : Option String) (path rest : String) : Prop :=
  match mount with
  | none => rest = path
  | some m => path = m ++ rest ∨ (∀ rest', path ≠ m ++ rest') ∧ rest = path

namespace Router

theorem dropStart?_eq_some {start text rest : List Char} :
    dropStart? start text = some rest ↔ text = start ++ rest := by
  induction start generalizing text with
  | nil => simp [dropStart?]
  | cons c cs ih =>
      cases text with
      | nil => simp [dropStart?]
      | cons d ds =>
          simp only [dropStart?, List.cons_append, List.cons.injEq]
          split
          · next hcd => rw [ih, eq_comm (a := d), and_iff_right hcd]
          · next hcd =>
              constructor
              · intro h
                cases h
              · exact fun h => absurd h.1.symm hcd

theorem below?_eq_some {mount path rest : String} :
    below? mount path = some rest ↔ path = mount ++ rest := by
  unfold below?
  rw [Option.map_eq_some_iff]
  constructor
  · rintro ⟨cs, hcs, rfl⟩
    rw [dropStart?_eq_some] at hcs
    rw [← String.toList_inj, hcs, String.toList_append, String.toList_ofList]
  · rintro rfl
    exact ⟨rest.toList, dropStart?_eq_some.2 (String.toList_append ..), String.ofList_toList⟩

theorem localPath_below (api : Api) (mount : Option String) (options : CheckOptions)
    (path : String) : Below mount path ((ofApi api mount options).localPath path) := by
  cases mount with
  | none => rfl
  | some m =>
      unfold localPath ofApi
      by_cases hm : m.isEmpty = true
      · have hm' : m = "" := by simpa using hm
        subst hm'
        left
        simp [Option.filter]
      · simp only [Option.filter, hm]
        simp only [Bool.not_false, if_true]
        cases hrest : below? m path with
        | some rest => exact Or.inl (below?_eq_some.1 hrest)
        | none =>
            right
            refine ⟨fun rest' h => ?_, rfl⟩
            rw [below?_eq_some.2 h] at hrest
            cases hrest

end Router

namespace Member

/-- The captures of a member's template on a path below the mount point. -/
def captures? (base : String) (m : Member) (path : String) : Option (List (String × String)) :=
  match m.path with
  | .text href => (Template.ofString (base ++ href)).captures? path
  | _ => none

/-- A member that is routed and serves a method and a path. -/
def Serves (base method path : String) (m : Member) : Prop :=
  m.IsRouted ∧ m.method = Text.upper method ∧ (m.captures? base path).isSome

end Member

/-! ## What is found -/

namespace Router

variable {document : Entries} {base : String}

/-- What a route gives for a method and a path. -/
def answer? (method path : String) (r : Route) : Option Found :=
  if r.link.method == Text.upper method then
    (r.template.captures? path).map fun cs => ⟨r.link, cs⟩
  else none

theorem answer?_eq_some {m : Member} {r : Route} (h : RouteOf document base m r)
    (method path : String) (found : Found) :
    answer? method path r = some found ↔
      m.method = Text.upper method ∧ m.captures? base path = some found.captures ∧
        found.link = r.link := by
  obtain ⟨link, captures⟩ := found
  have hcaptures : m.captures? base path = r.template.captures? path := by
    rw [Member.captures?, h.path, h.template]
  rw [answer?, hcaptures, ← h.method]
  by_cases hm : r.link.method = Text.upper method
  · rw [if_pos (beq_iff_eq.2 hm), Option.map_eq_some_iff, and_iff_right hm]
    constructor
    · rintro ⟨cs, hcs, heq⟩
      cases heq
      exact ⟨hcs, rfl⟩
    · rintro ⟨hcs, hlink⟩
      cases hlink
      exact ⟨captures, hcs, rfl⟩
  · simp [hm]

theorem answer?_isSome {m : Member} {r : Route} (h : RouteOf document base m r)
    (method path : String) :
    (m.method = Text.upper method ∧ (m.captures? base path).isSome) ↔
      (answer? method path r).isSome := by
  rw [Option.isSome_iff_exists, Option.isSome_iff_exists]
  constructor
  · rintro ⟨hmethod, cs, hcs⟩
    exact ⟨⟨r.link, cs⟩, (answer?_eq_some h method path _).2 ⟨hmethod, hcs, rfl⟩⟩
  · rintro ⟨found, hfound⟩
    obtain ⟨hmethod, hcs, -⟩ := (answer?_eq_some h method path _).1 hfound
    exact ⟨hmethod, _, hcs⟩

/-- A lookup searches all routes for the first that answers. -/
theorem find?_eq {r : Router} {routes : List Route}
    (hapi : r.api.routes = grouped (fun r => r.link.method) routes) (method path : String) :
    r.find? method path = routes.findSome? (answer? method (r.localPath path)) := by
  rw [find?, firstMatch?, Api.routesOf_eq hapi, findSome?_filter]
  rfl

/-- **Where a request is routed to.** The router of a compiled document finds the first of the
    document's members that is routed and serves the method and the path below the mount point, with
    the captures of that member's template, and finds nothing when there is none. -/
theorem find?_of_compile {document : Entries} {defaults : Defaults} {api : Api}
    (h : Api.compile document defaults = .ok api) (mount : Option String) (options : CheckOptions)
    (method path : String) :
    ∃ base rest, IsTrimmed base (writtenBasePath document) ∧ Below mount path rest ∧
      (∀ found, (ofApi api mount options).find? method path = some found ↔
        ∃ m, First (Member.Serves base method rest) (Member.all document) m ∧
          m.LinksTo document found.link ∧ m.captures? base rest = some found.captures) ∧
      ((ofApi api mount options).find? method path = none ↔
        ∀ m ∈ Member.all document, ¬ m.Serves base method rest) := by
  obtain ⟨hbase, -, routes, hroutes, hapi⟩ := Api.routes_of_compile h
  set rest := (ofApi api mount options).localPath path with hrest
  refine ⟨api.basePath, rest, Api.basePathOf_isTrimmed hbase, localPath_below api mount options path,
    ?_, ?_⟩
  · intro found
    rw [find?_eq hapi, ← hrest, First.findSome?_eq_some hroutes (fun _ _ _ => RouteOf.unique)
      fun _ _ hr => answer?_isSome hr method rest]
    constructor
    · rintro ⟨m, r, hfirst, hr, hfound⟩
      obtain ⟨-, hcaptures, hlink⟩ := (answer?_eq_some hr method rest found).1 hfound
      exact ⟨m, (First.filter_iff _).1 hfirst, hlink ▸ hr.links, hcaptures⟩
    · rintro ⟨m, hfirst, hlinks, hcaptures⟩
      have hmem := Member.mem_routed.2 ⟨hfirst.mem, hfirst.holds.1⟩
      obtain ⟨r, -, hr⟩ := exists_of_forall₂ hroutes hmem
      refine ⟨m, r, (First.filter_iff _).2 hfirst, hr, (answer?_eq_some hr method rest found).2 ?_⟩
      exact ⟨hfirst.holds.2.1, hcaptures, hlinks.unique hr.links⟩
  · rw [find?_eq hapi, ← hrest,
      First.findSome?_eq_none hroutes fun _ _ hr => answer?_isSome hr method rest]
    constructor
    · exact fun hnone m hm hserves => hnone m (Member.mem_routed.2 ⟨hm, hserves.1⟩) hserves.2
    · intro hnone m hm hserves
      obtain ⟨hall, hrouted⟩ := Member.mem_routed.1 hm
      exact hnone m hall ⟨hrouted, hserves⟩

/-- Two templates fit the path below the mount point; the one that is declared first is found. -/
theorem find?_petDocument :
    ∃ api base rest found m, Api.compile Api.petDocument .standard = .ok api ∧
      IsTrimmed base (writtenBasePath Api.petDocument) ∧
      Below (some "/shop") "/shop/v1/pets/mine" rest ∧
      (ofApi api (some "/shop") .standard).find? "get" "/shop/v1/pets/mine" = some found ∧
      found.captures = [("id", "mine")] ∧
      First (Member.Serves base "get" rest) (Member.all Api.petDocument) m ∧
      m.LinksTo Api.petDocument found.link := by
  obtain ⟨api, hapi⟩ := Api.petDocument_compiles
  have hcaptures : ((Api.compile Api.petDocument .standard).toOption.bind fun api =>
      ((ofApi api (some "/shop") .standard).find? "get" "/shop/v1/pets/mine").map Found.captures)
        = some [("id", "mine")] := by
    decide +kernel
  rw [hapi] at hcaptures
  obtain ⟨found, hfound, hcs⟩ := Option.map_eq_some_iff.1 hcaptures
  obtain ⟨base, rest, hbase, hrest, hsome, -⟩ :=
    find?_of_compile hapi (some "/shop") .standard "get" "/shop/v1/pets/mine"
  obtain ⟨m, hfirst, hlinks, -⟩ := (hsome found).1 hfound
  exact ⟨api, base, rest, found, m, hapi, hbase, hrest, hfound, hcs, hfirst, hlinks⟩

/-- A mapping whose method and template fit is not found when its method is none that is routed. -/
theorem head_not_found :
    ∃ api m, Api.compile Api.petDocument .standard = .ok api ∧
      IsTrimmed "/v1" (writtenBasePath Api.petDocument) ∧
      Below none "/v1/pets" "/v1/pets" ∧
      First (fun m => m.value.isMap = true ∧ m.method = Text.upper "head" ∧
        (m.captures? "/v1" "/v1/pets").isSome) (Member.all Api.petDocument) m ∧
      (ofApi api none .standard).find? "head" "/v1/pets" = none := by
  obtain ⟨api, hapi⟩ := Api.petDocument_compiles
  have hnone : ((Api.compile Api.petDocument .standard).toOption.bind fun api =>
      ((ofApi api none .standard).find? "head" "/v1/pets").map Found.captures) = none := by
    decide +kernel
  rw [hapi] at hnone
  have hhead : ∃ m ∈ Member.all Api.petDocument, m.value.isMap = true ∧
      m.method = Text.upper "head" ∧ (m.captures? "/v1" "/v1/pets").isSome := by
    decide +kernel
  obtain ⟨head, hmem, hfits⟩ := hhead
  obtain ⟨m, hfirst⟩ := First.exists_of_mem (p := fun m => m.value.isMap = true ∧
    m.method = Text.upper "head" ∧ (m.captures? "/v1" "/v1/pets").isSome) hmem hfits
  exact ⟨api, m, hapi, ⟨⟨2, by decide +kernel⟩, by decide +kernel⟩, rfl, hfirst,
    Option.map_eq_none_iff.1 hnone⟩

end Router

end ApiRouter

import ApiRouter.Proofs.Capitals
import ApiRouter.Proofs.Reports
import ApiRouter.Proofs.Mount

set_option autoImplicit false

/-! # Commands that route

Two commands look for the route of a method and a path: one shows the link, the other checks a
request to it. They agree on every path under the mount point. The first one refuses any other path,
and the second one looks for it as if there were no mount point. -/

namespace ApiRouter

/-- What is printed of a link that is found. -/
def Found.shown (found : Found) : Value :=
  .object
    [("method", .text found.link.method), ("href", .text found.link.href),
      ("path_params", .object (found.captures.map fun c => (c.1, .text c.2))),
      ("status_success", CommandLine.statusValue found.link.successStatus),
      ("enc_type", found.link.encType), ("media_type", found.link.mediaType)]

/-- What is found for a path that has to lie under the mount point. -/
def Router.reached? (r : Router) (method path : String) : Option Found :=
  if r.includes path then r.find? method path else none

/-- A method in capitals leads where it does as it is written. -/
theorem Router.find?_upper (r : Router) (method path : String) :
    r.find? (Text.upper method) path = r.find? method path := by
  rw [find?, find?, Api.routesOf, Api.routesOf, Text.upper_upper]

namespace CommandLine

/-! ## Commands on one document -/

/-- The same command with another action. -/
def Command.doing (c : Command) (action : Action) : Command := { c with action := action }

/-- The notices that a command prints on its document. -/
def noticeText (w : Workspace) (c : Command) : String :=
  String.join ((compile w c).notices.map fun n => Output.line n.message)

variable {w : Workspace} {o : Output} {c : Command} {router : Router} {method path : String}
  {input : CheckInput} {request : Request}

/-- What an action does with a router, after some notices. -/
def act (w : Workspace) (o : Output) (err : String) (router : Router) :
    Action → Except Failure Outcome
  | .listRoutes => printedRoutes w o err router
  | .findLink method path => printed w o err none (findLink router method path)
  | .showLink method href => printed w o err none (showLink router method href)
  | .check method path input =>
    printed w o err (some "Request is valid.") (check router method path input)

/-- A command whose document compiles does its action with the router. -/
theorem runCommand_doing (h : (compile w c).router = .ok router) (action : Action) :
    runCommand w o (c.doing action) = act w o (noticeText w c) router action := by
  have h' : (compile w (c.doing action)).router = .ok router := h
  simp only [runCommand, h']
  cases action with
  | listRoutes => rfl
  | findLink method path => rfl
  | showLink method href => rfl
  | check method path input => rfl

theorem runCommand_listRoutes (h : (compile w c).router = .ok router) :
    runCommand w o (c.doing .listRoutes) = printedRoutes w o (noticeText w c) router :=
  runCommand_doing h .listRoutes

theorem runCommand_findLink (h : (compile w c).router = .ok router) (method path : String) :
    runCommand w o (c.doing (.findLink method path))
      = printed w o (noticeText w c) none (findLink router method path) :=
  runCommand_doing h (.findLink method path)

theorem runCommand_showLink (h : (compile w c).router = .ok router) (method href : String) :
    runCommand w o (c.doing (.showLink method href))
      = printed w o (noticeText w c) none (showLink router method href) :=
  runCommand_doing h (.showLink method href)

theorem runCommand_check (h : (compile w c).router = .ok router) (method path : String)
    (input : CheckInput) :
    runCommand w o (c.doing (.check method path input))
      = printed w o (noticeText w c) (some "Request is valid.") (check router method path input) :=
  runCommand_doing h (.check method path input)

/-! ## Showing a link -/

/-- What is said of a method and a path that no route matches. -/
def noRoute (method path : String) : String :=
  "No route matches " ++ Text.upper method ++ " " ++ path

/-- Why a method and a path lead nowhere. -/
def refusal (router : Router) (method path : String) : String :=
  if router.includes path then noRoute method path
  else path ++ " is outside prefix " ++ router.mount.getD "None"

theorem findLink_eq (router : Router) (method path : String) :
    findLink router method path =
      match router.reached? method path with
      | some found => .ok found.shown
      | none => fail .notFound (refusal router method path) := by
  unfold findLink Router.reached? refusal
  cases router.includes path with
  | false => rfl
  | true =>
      simp only [Bool.not_true, Bool.false_eq_true, if_false, if_true]
      cases router.find? method path with
      | none => rfl
      | some found => rfl

/-- Showing a link ends with the code of what is not found exactly when nothing is found and that can
    be said. -/
theorem endsWith_findLink (h : (compile w c).router = .ok router) :
    EndsWith (runCommand w o (c.doing (.findLink method path))) 4 ↔
      router.reached? method path = none ∧ Shows o (refusal router method path) := by
  rw [runCommand_findLink h, endsWith_printed (by decide) (by decide), findLink_eq]
  cases router.reached? method path with
  | none =>
      constructor
      · rintro ⟨r, hr, -, hshows⟩
        cases hr
        exact ⟨rfl, hshows⟩
      · rintro ⟨-, hshows⟩
        exact ⟨_, rfl, rfl, hshows⟩
  | some found =>
      constructor
      · rintro ⟨r, hr, -⟩
        cases hr
      · rintro ⟨hnone, -⟩
        cases hnone

/-! ## Checking a request -/

/-- The request that options describe is not mounted and has its method in capitals. -/
theorem requestOf_eq_ok (h : requestOf method path input = .ok request) :
    request.method = Text.upper method ∧ request.pathInfo = path := by
  obtain ⟨query, -, h⟩ := Outcome.bind_eq_ok.1 h
  obtain ⟨form, -, h⟩ := Outcome.bind_eq_ok.1 h
  obtain ⟨headers, -, h⟩ := Outcome.bind_eq_ok.1 h
  obtain ⟨body, -, h⟩ := Outcome.bind_eq_ok.1 h
  cases h
  exact ⟨rfl, rfl⟩

theorem findRequest?_requestOf (h : requestOf method path input = .ok request) :
    router.findRequest? request = router.find? method path := by
  obtain ⟨hmethod, hpath⟩ := requestOf_eq_ok h
  rw [Router.findRequest?, hmethod, hpath, Router.find?_upper]

theorem check_of_none (h : requestOf method path input = .ok request)
    (hfound : router.find? method path = none) :
    check router method path input = fail .notFound (noRoute method path) := by
  rw [check, h, Outcome.ok_bind]
  simp only [Validator.forRequest, findRequest?_requestOf h, hfound, (requestOf_eq_ok h).1]
  rfl

/-- Checking a request for which a link is found gives the template of this link, if it gives
    anything. -/
theorem eq_of_check_eq_ok (h : requestOf method path input = .ok request) {found : Found}
    (hfound : router.find? method path = some found) {v : Value}
    (hv : check router method path input = .ok v) :
    ∃ params, v = .object [("href", .text found.link.href), ("params", .object params)] := by
  rw [check, h, Outcome.ok_bind] at hv
  simp only [Validator.forRequest, findRequest?_requestOf h, hfound] at hv
  obtain ⟨params, -, hv⟩ := Outcome.bind_eq_ok.1 hv
  split at hv
  · cases hv
    exact ⟨params, rfl⟩
  · obtain ⟨body, -, hv⟩ := Outcome.bind_eq_ok.1 hv
    obtain ⟨-, -, hv⟩ := Outcome.bind_eq_ok.1 hv
    cases hv
    exact ⟨params, rfl⟩

/-- What is wrong with a request for which a link is found is not that nothing is found. -/
theorem avoids_check (h : requestOf method path input = .ok request) {found : Found}
    (hfound : router.find? method path = some found) :
    Avoids 4 (check router method path input) := by
  rw [check, h, Outcome.ok_bind]
  simp only [Validator.forRequest, findRequest?_requestOf h, hfound]
  refine (Avoids.checkRequest _ _ (by decide)).bind fun params => ?_
  split
  · exact Avoids.ok _
  · exact (Avoids.readJson (by decide) _ _).bind fun body =>
      (Avoids.checkResponse _ (by decide) _ _).bind fun _ => Avoids.ok _

/-- Checking a request ends with the code of what is not found exactly when no route matches and that
    can be said. -/
theorem endsWith_check (h : (compile w c).router = .ok router)
    (hrequest : requestOf method path input = .ok request) :
    EndsWith (runCommand w o (c.doing (.check method path input))) 4 ↔
      router.find? method path = none ∧ Shows o (noRoute method path) := by
  rw [runCommand_check h, endsWith_printed (by decide) (by decide)]
  cases hfound : router.find? method path with
  | none =>
      rw [check_of_none hrequest hfound]
      constructor
      · rintro ⟨r, hr, -, hshows⟩
        cases hr
        exact ⟨rfl, hshows⟩
      · rintro ⟨-, hshows⟩
        exact ⟨_, rfl, rfl, hshows⟩
  | some found =>
      constructor
      · rintro ⟨r, hr, hcode, -⟩
        exact absurd hcode (avoids_check hrequest hfound r hr)
      · rintro ⟨hnone, -⟩
        cases hnone

/-! ## Agreement -/

theorem reached?_of_includes (h : router.includes path = true) (method : String) :
    router.reached? method path = router.find? method path := by
  rw [Router.reached?, if_pos h]

/-- Outside its mount point, a router takes a path as if it had none. -/
theorem find?_of_not_includes (h : router.includes path = false) (method : String) :
    router.find? method path = { router with mount := none }.find? method path := by
  have hlocal : router.localPath path = path := by
    unfold Router.includes at h
    unfold Router.localPath
    cases hmount : router.mount with
    | none => rfl
    | some mount =>
        rw [hmount] at h
        simp only [Option.isSome_eq_false_iff, Option.isNone_iff_eq_none] at h
        simp only [h, Option.getD_none]
  rw [Router.find?, hlocal]
  rfl

/-- **Showing a link and checking a request.** On a path that the router includes, the two commands
    end alike as far as what is not found is concerned: they hold the same link, and neither ends with
    that code, or nothing is found, and their runs are the same. Any other path is refused by the first
    one, whereas the second one goes by what is found for it without the mount point. -/
theorem findLink_check_agree (h : (compile w c).router = .ok router)
    (hrequest : requestOf method path input = .ok request) :
    (router.includes path = true →
      (EndsWith (runCommand w o (c.doing (.check method path input))) 4 ↔
          EndsWith (runCommand w o (c.doing (.findLink method path))) 4) ∧
        ((∃ found, findLink router method path = .ok found.shown ∧
            (Validator.forRequest router request).found = some found ∧
            ¬ EndsWith (runCommand w o (c.doing (.check method path input))) 4 ∧
            ∀ v, check router method path input = .ok v →
              ∃ params, v = .object [("href", .text found.link.href), ("params", .object params)]) ∨
          (Validator.forRequest router request).found = none ∧
            runCommand w o (c.doing (.check method path input))
              = runCommand w o (c.doing (.findLink method path)))) ∧
      (router.includes path = false →
        findLink router method path = fail .notFound (refusal router method path) ∧
          (Validator.forRequest router request).found
            = { router with mount := none }.find? method path ∧
          (EndsWith (runCommand w o (c.doing (.check method path input))) 4 ↔
            { router with mount := none }.find? method path = none ∧
              Shows o (noRoute method path))) := by
  have hvalidator : (Validator.forRequest router request).found = router.find? method path :=
    findRequest?_requestOf hrequest
  constructor
  · intro hincludes
    have hreached := reached?_of_includes hincludes method
    have hrefusal : refusal router method path = noRoute method path := if_pos hincludes
    refine ⟨?_, ?_⟩
    · rw [endsWith_check h hrequest, endsWith_findLink h, hreached, hrefusal]
    · cases hfound : router.find? method path with
      | some found =>
          refine .inl ⟨found, ?_, hvalidator.trans hfound, ?_, fun v => eq_of_check_eq_ok hrequest hfound⟩
          · rw [findLink_eq, hreached, hfound]
          · rw [endsWith_check h hrequest, hfound]
            rintro ⟨hnone, -⟩
            cases hnone
      | none =>
          -- the same report on the same output: whether it can be printed does not matter
          refine .inr ⟨hvalidator.trans hfound, ?_⟩
          rw [runCommand_check h, runCommand_findLink h, check_of_none hrequest hfound, findLink_eq,
            hreached, hfound, hrefusal]
          rfl
  · intro houtside
    have hfind := find?_of_not_includes houtside method
    refine ⟨?_, hvalidator.trans hfind, ?_⟩
    · rw [findLink_eq, Router.reached?, if_neg (by rw [houtside]; decide)]
    · rw [endsWith_check h hrequest, hfind]

/-- Surroundings with one document, in which `/pets` can be got. -/
def petWorkspace : Workspace where
  files := ⟨[], [(["p.json"], .file (.text
    ("\x7b\"swagger\":\"2.0\",\"definitions\":\x7b\x7d," ++
      "\"paths\":\x7b\"/pets\":\x7b\"get\":\x7b\x7d\x7d\x7d\x7d")))]⟩
  stdin := .text ""
  fetch := fun _ => .unreachable ""
  environment := []
  accountHome := "/"
  system := "Darwin"
  moment := ""

/-- A command on this document. -/
def petCommand : Command := ⟨"p.json", .listRoutes, ⟨none, none⟩⟩

/-- The same command under the mount point `/v1`. -/
def mountedCommand : Command := ⟨"p.json", .listRoutes, ⟨some "/v1", none⟩⟩

/-- A request that is nothing but a method and a path. -/
def bareInput : CheckInput := ⟨[], [], [], none, none, none, none⟩

/-- Plain lines, and messages with colours. -/
def plainOutput : Output := ⟨.plain, true, false⟩

theorem findLink_check_agree_pets :
    ∃ router request, (compile petWorkspace mountedCommand).router = .ok router ∧
      requestOf "get" "/v1/pets" bareInput = .ok request ∧
      (EndsWith (runCommand petWorkspace plainOutput
          (mountedCommand.doing (.check "get" "/v1/pets" bareInput))) 4 ↔
        EndsWith (runCommand petWorkspace plainOutput
          (mountedCommand.doing (.findLink "get" "/v1/pets"))) 4) ∧
      ∃ found, (Validator.forRequest router request).found = some found ∧
        found.link.href = "/pets" := by
  have hrouter : (compile petWorkspace mountedCommand).router.toOption.map (fun router =>
      (router.includes "/v1/pets",
        (router.find? "get" "/v1/pets").map fun found => found.link.href))
        = some (true, some "/pets") := by
    decide +kernel
  obtain ⟨router, hcompile, hfound⟩ := Outcome.exists_of_toOption_map hrouter
  obtain ⟨hincludes, hfound⟩ := Prod.mk.inj hfound
  obtain ⟨found, hfound, hhref⟩ := Option.map_eq_some_iff.1 hfound
  have hrequest : requestOf "get" "/v1/pets" bareInput
      = .ok ⟨"GET", "/v1/pets", "", [], [], [], .null, none⟩ := by
    decide +kernel
  exact ⟨router, _, hcompile, hrequest,
    ((findLink_check_agree (o := plainOutput) hcompile hrequest).1 hincludes).1, found,
    (findRequest?_requestOf hrequest).trans hfound, hhref⟩

/-- A path that does not lie under the mount point: no link is shown for it, and yet a request to it
    is found valid. -/
theorem check_beyond_mount :
    ∃ router request, (compile petWorkspace mountedCommand).router = .ok router ∧
      requestOf "GET" "/pets" bareInput = .ok request ∧
      EndsWith (runCommand petWorkspace plainOutput
        (mountedCommand.doing (.findLink "GET" "/pets"))) 4 ∧
      EndsWith (runCommand petWorkspace plainOutput
        (mountedCommand.doing (.check "GET" "/pets" bareInput))) 0 := by
  have hrouter : (compile petWorkspace mountedCommand).router.toOption.map (fun router =>
      (router.includes "/pets", refusal router "GET" "/pets"))
        = some (false, "/pets is outside prefix /v1") := by
    decide +kernel
  obtain ⟨router, hcompile, hfacts⟩ := Outcome.exists_of_toOption_map hrouter
  obtain ⟨hincludes, hrefusal⟩ := Prod.mk.inj hfacts
  obtain ⟨request, hrequest⟩ : ∃ request, requestOf "GET" "/pets" bareInput = .ok request :=
    Outcome.exists_of_toBool (by decide +kernel)
  have hreached : router.reached? "GET" "/pets" = none := by
    rw [Router.reached?, hincludes, if_neg (by decide)]
  have hshows : Shows plainOutput (refusal router "GET" "/pets") := by
    rw [hrefusal]
    exact shows_of_bare (.inr (by decide))
  refine ⟨router, request, hcompile, hrequest, (endsWith_findLink hcompile).2 ⟨hreached, hshows⟩, ?_⟩
  decide +kernel

end CommandLine

end ApiRouter

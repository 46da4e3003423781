import ApiRouter.Proofs.Findings
import ApiRouter.Proofs.Outcome
import ApiRouter.Proofs.Rows
import ApiRouter.RequestCheck

set_option autoImplicit false

/-! # Which requests pass

A request to a link goes through four stages. What each of them asks for is said here without
reference to the code that asks, and checking a request is shown to decide it: the request passes
when it passes every stage, and is otherwise refused for the first stage that it does not pass. -/

namespace ApiRouter

/-- The stages that a request goes through. -/
inductive Stage where
  | contentType
  | parameters
  | body
  | headers
  deriving DecidableEq, Repr

/-- The stages in order. -/
def Stage.order : List Stage := [.contentType, .parameters, .body, .headers]

namespace Validator

variable (v : Validator) (link : Link) (request : Request)

/-! ## What the stages ask for -/

/-- The parameters of a request as its link takes them. -/
def Collects (schema : Schema) (params : List (String × Value)) : Prop :=
  collectParams v.router.options v.router.api.defaults v.captures request schema = .ok params

/-- The request passes a stage. -/
def Passes : Stage → Prop
  | .contentType =>
    v.router.options.checkContentType = false ∨ request.body = .null ∨
      request.contentType = none ∨ request.contentType = some "" ∨
      link.encType = .null ∨ link.encType = .text "" ∨
      ∃ given expected, request.contentType = some given ∧ link.encType = .text expected ∧
        mediaTypeOf given = Text.lower expected
  | .parameters =>
    ∀ schema, link.shape = .parameters schema →
      ∃ params, v.Collects request schema params ∧
        Schema.Accepts schema.data v.definitions (.object params)
  | .body =>
    ∀ payload, link.shape = .body (.map payload) →
      request.body = .null ∧ link.bodyRequired = false ∨
        request.body ≠ .null ∧ Schema.Accepts payload v.definitions request.body
  | .headers =>
    v.router.options.checkHeaders = false ∨
      ∀ schema, link.headerSchema = some schema →
        ∃ headers, collectHeaders request schema = .ok headers ∧
          Schema.Accepts schema.data v.definitions (.object headers)

/-- Whatever the stage coerces can be coerced, and whatever it evaluates comes to an end. -/
def Concludes : Stage → Prop
  | .contentType => True
  | .parameters =>
    ∀ schema, link.shape = .parameters schema →
      ∃ params, v.Collects request schema params ∧
        Schema.Evaluates schema.data v.definitions (.object params)
  | .body =>
    ∀ payload, link.shape = .body (.map payload) → request.body ≠ .null →
      Schema.Evaluates payload v.definitions request.body
  | .headers =>
    v.router.options.checkHeaders = true →
      ∀ schema, link.headerSchema = some schema →
        ∃ headers, collectHeaders request schema = .ok headers ∧
          Schema.Evaluates schema.data v.definitions (.object headers)

/-- The report on a request that a stage refuses. -/
def Blames : Stage → Report → Prop
  | .contentType, report =>
    ∃ given, request.contentType = some given ∧
      report = .ofKind .invalidRequest ("'Content-Type' should be " ++ link.encType.display ++
        ", got " ++ mediaTypeOf given ++ ".")
  | .parameters, report =>
    ∃ schema params, link.shape = .parameters schema ∧ v.Collects request schema params ∧
      report = Schema.reportOn .invalidRequest "Invalid request parameters" schema.data
        v.definitions (.object params)
  | .body, report =>
    ∃ payload, link.shape = .body (.map payload) ∧
      (request.body = .null ∧
          report = .ofKind .invalidRequest "Invalid request body: a request body is required" ∨
        request.body ≠ .null ∧
          report = Schema.reportOn .invalidRequest "Invalid request body" payload v.definitions
            request.body)
  | .headers, report =>
    ∃ schema headers, link.headerSchema = some schema ∧
      collectHeaders request schema = .ok headers ∧
      report = Schema.reportOn .invalidRequest "Invalid request headers" schema.data
        v.definitions (.object headers)

/-! ## The stages one by one -/

/-- The check that a stage makes. -/
def check : Stage → Except Failure Unit
  | .contentType =>
    if v.router.options.checkContentType then checkContentType link.encType request else .ok ()
  | .parameters => (fun _ => ()) <$> v.checkParams link request
  | .body => v.checkBody link request
  | .headers => if v.router.options.checkHeaders then v.checkHeaders link request else .ok ()

/-- Checking a request is making the checks of all stages in order. -/
theorem checkRequest_eq {f : Found} (hf : v.found = some f) :
    (fun _ => ()) <$> v.checkRequest request = forM Stage.order (v.check f.link request) := by
  have hrest : (fun _ => ()) <$> (do
      let params ← v.checkParams f.link request
      v.checkBody f.link request
      if v.router.options.checkHeaders then v.checkHeaders f.link request
      .ok params) = forM [Stage.parameters, .body, .headers] (v.check f.link request) := by
    simp only [List.forM_cons, List.forM_nil, check]
    cases v.checkParams f.link request with
    | error e => rfl
    | ok params =>
        cases v.checkBody f.link request with
        | error e => rfl
        | ok _ =>
            cases v.router.options.checkHeaders with
            | false => rfl
            | true => cases v.checkHeaders f.link request <;> rfl
  rw [Stage.order, List.forM_cons, ← hrest]
  simp only [checkRequest, hf, check]
  cases v.router.options.checkContentType with
  | false => rfl
  | true => cases checkContentType f.link.encType request <;> rfl

/-- A stage is settled when it lets through what passes and reports on the rest. -/
def Settles (stage : Stage) : Prop :=
  (v.Passes link request stage → v.check link request stage = .ok ()) ∧
    (¬ v.Passes link request stage →
      ∃ report, v.check link request stage = .error (.reported report) ∧
        v.Blames link request stage report)

variable {v link request}

theorem settles_contentType (henc : link.encType = .null ∨ ∃ s, link.encType = .text s) :
    v.Settles link request .contentType := by
  unfold Settles check
  cases hon : v.router.options.checkContentType with
  | false => exact ⟨fun _ => rfl, fun h => absurd (Or.inl hon) h⟩
  | true =>
      simp only [if_true, Passes, hon, Bool.true_eq_false, false_or, checkContentType]
      split
      · next hbody => exact ⟨fun _ => rfl, fun h => absurd (Or.inl hbody) h⟩
      · next htype _ => exact ⟨fun _ => rfl, fun h => absurd (Or.inr (Or.inl htype)) h⟩
      · next given htype hbody =>
          rw [htype]
          rcases henc with henc | ⟨expected, henc⟩
          · simp [henc, Value.truthy]
          · by_cases hgiven : given = ""
            · simp [hgiven]
            · by_cases hexpected : expected = ""
              · simp [henc, hexpected, Value.truthy]
              · by_cases hsame : mediaTypeOf given = Text.lower expected
                · simp [henc, hsame, Value.truthy]
                · have hnull : request.body ≠ .null := fun h => hbody h
                  simp [henc, hgiven, hexpected, hsame, hnull, htype, Value.truthy, Blames, fail,
                    Failure.report]

/-- A stage that evaluates a schema is settled when it passes what the schema accepts. -/
theorem settles_of_require {stage : Stage} {label : String} {payload : Entries} {subject : Value}
    (heval : Schema.Evaluates payload v.definitions subject)
    (hpasses : v.Passes link request stage ↔ Schema.Accepts payload v.definitions subject)
    (hcheck : v.check link request stage
      = Schema.require .invalidRequest label (.map payload) v.definitions subject)
    (hblames : v.Blames link request stage
      (Schema.reportOn .invalidRequest label payload v.definitions subject)) :
    v.Settles link request stage := by
  constructor
  · intro h
    rw [hcheck]
    exact Schema.require_of_accepts (hpasses.1 h) ..
  · intro h
    refine ⟨_, ?_, hblames⟩
    rw [hcheck]
    exact Schema.require_of_not_accepts heval (fun hacc => h (hpasses.2 hacc)) ..

theorem settles_parameters (h : v.Concludes link request .parameters) :
    v.Settles link request .parameters := by
  cases hshape : link.shape with
  | body payload =>
      have hcheck : v.check link request .parameters = .ok () := by
        simp only [check, checkParams, hshape, Outcome.map_ok]
      have hpass : v.Passes link request .parameters := by
        intro schema hschema
        rw [hshape] at hschema
        cases hschema
      exact ⟨fun _ => hcheck, fun h => absurd hpass h⟩
  | parameters schema =>
      obtain ⟨params, hparams, heval⟩ := h schema hshape
      have hcollect : collectParams v.router.options v.router.api.defaults v.captures request schema
          = .ok params := hparams
      refine settles_of_require heval ?_ ?_ ⟨schema, params, hshape, hparams, rfl⟩
      · constructor
        · intro hpass
          obtain ⟨params', hparams', hacc⟩ := hpass schema hshape
          rw [Collects, hcollect] at hparams'
          cases hparams'
          exact hacc
        · intro hacc schema' hschema
          rw [hshape] at hschema
          cases hschema
          exact ⟨params, hparams, hacc⟩
      · simp only [check, checkParams, hshape, hcollect, Outcome.ok_bind]
        cases Schema.require .invalidRequest "Invalid request parameters" (.map schema.data)
          v.definitions (.object params) <;> rfl

theorem passes_body_iff {payload : Entries} (hshape : link.shape = .body (.map payload)) :
    v.Passes link request .body ↔ request.body = .null ∧ link.bodyRequired = false ∨
      request.body ≠ .null ∧ Schema.Accepts payload v.definitions request.body := by
  constructor
  · exact fun h => h payload hshape
  · intro h payload' hpayload
    rw [hshape] at hpayload
    cases hpayload
    exact h

theorem settles_body
    (hmap : ∀ payload, link.shape = .body payload → payload = .null ∨ ∃ m, payload = .map m)
    (h : v.Concludes link request .body) : v.Settles link request .body := by
  by_cases htakes : ∃ m, link.shape = .body (.map m)
  · obtain ⟨m, hshape⟩ := htakes
    by_cases hbody : request.body = .null
    · have hpass : v.Passes link request .body ↔ _ := passes_body_iff hshape
      cases hrequired : link.bodyRequired with
      | false =>
          have hcheck : v.check link request .body = .ok () := by
            simp [check, checkBody, hshape, hbody, hrequired, Parameter.RequestShape.payload]
          exact ⟨fun _ => hcheck, fun h => absurd (hpass.2 (.inl ⟨hbody, hrequired⟩)) h⟩
      | true =>
          have hcheck : v.check link request .body
              = fail .invalidRequest "Invalid request body: a request body is required" := by
            simp [check, checkBody, hshape, hbody, hrequired, Parameter.RequestShape.payload]
          refine ⟨fun h => ?_, fun _ => ⟨_, hcheck, m, hshape, .inl ⟨hbody, rfl⟩⟩⟩
          rcases hpass.1 h with ⟨-, hnot⟩ | ⟨hsome, -⟩
          · rw [hrequired] at hnot
            cases hnot
          · exact absurd hbody hsome
    · refine settles_of_require (h m hshape hbody) ?_ ?_ ⟨m, hshape, .inr ⟨hbody, rfl⟩⟩
      · rw [passes_body_iff hshape]
        simp [hbody]
      · simp only [check, checkBody, hshape, Parameter.RequestShape.payload]
  · have hcheck : v.check link request .body = .ok () := by
      cases hshape : link.shape with
      | parameters schema => simp only [check, checkBody, hshape, Parameter.RequestShape.payload]
      | body payload =>
          rcases hmap payload hshape with rfl | ⟨m, rfl⟩
          · simp only [check, checkBody, hshape, Parameter.RequestShape.payload]
          · exact absurd ⟨m, hshape⟩ htakes
    exact ⟨fun _ => hcheck, fun h => absurd (fun m hshape => absurd ⟨m, hshape⟩ htakes) h⟩

theorem settles_headers (h : v.Concludes link request .headers) :
    v.Settles link request .headers := by
  by_cases hon : v.router.options.checkHeaders = true
  · cases hschema : link.headerSchema with
    | none =>
        have hcheck : v.check link request .headers = .ok () := by
          simp only [check, checkHeaders, hon, if_true, hschema]
        have hpass : v.Passes link request .headers := by
          refine .inr fun schema hsome => ?_
          rw [hschema] at hsome
          cases hsome
        exact ⟨fun _ => hcheck, fun h => absurd hpass h⟩
    | some schema =>
        obtain ⟨headers, hheaders, heval⟩ := h hon schema hschema
        refine settles_of_require heval ?_ ?_ ⟨schema, headers, hschema, hheaders, rfl⟩
        · constructor
          · rintro (hoff | hpass)
            · rw [hon] at hoff
              cases hoff
            · obtain ⟨headers', hheaders', hacc⟩ := hpass schema hschema
              rw [hheaders] at hheaders'
              cases hheaders'
              exact hacc
          · intro hacc
            refine .inr fun schema' hsome => ?_
            rw [hschema] at hsome
            cases hsome
            exact ⟨headers, hheaders, hacc⟩
        · simp only [check, checkHeaders, hon, if_true, hschema, hheaders, Outcome.ok_bind]
  · have hcheck : v.check link request .headers = .ok () := by
      simp only [check, hon, Bool.false_eq_true, if_false]
    exact ⟨fun _ => hcheck, fun h => absurd (.inl (by simpa using hon)) h⟩

/-! ## The decision -/

/-- The request passes every stage before this one. -/
def Reaches (v : Validator) (link : Link) (request : Request) (stage : Stage) : Prop :=
  ∀ s ∈ Stage.order.takeWhile (· ≠ stage), v.Passes link request s

theorem takeWhile_order {before after : List Stage} {stage : Stage}
    (h : Stage.order = before ++ stage :: after) :
    Stage.order.takeWhile (· ≠ stage) = before := by
  have hnod : Stage.order.Nodup := by decide
  rw [h] at hnod ⊢
  have hnotin : ∀ s ∈ before, s ≠ stage := by
    intro s hs
    exact (List.nodup_append.1 hnod).2.2 s hs stage (List.mem_cons_self ..)
  rw [takeWhile_append_of_stop (by simpa using hnotin) (by simp)]

theorem Blames.kind {stage : Stage} {report : Report} (h : v.Blames link request stage report) :
    report.kind = .invalidRequest := by
  cases stage with
  | contentType =>
      obtain ⟨given, -, rfl⟩ := h
      rfl
  | parameters =>
      obtain ⟨schema, params, -, -, rfl⟩ := h
      rfl
  | body =>
      obtain ⟨payload, -, ⟨-, rfl⟩ | ⟨-, rfl⟩⟩ := h
      · rfl
      · rfl
  | headers =>
      obtain ⟨schema, headers, -, -, rfl⟩ := h
      rfl

theorem settles {stage : Stage} (henc : link.encType = .null ∨ ∃ s, link.encType = .text s)
    (hmap : ∀ payload, link.shape = .body payload → payload = .null ∨ ∃ m, payload = .map m)
    (h : v.Concludes link request stage) : v.Settles link request stage := by
  cases stage with
  | contentType => exact settles_contentType henc
  | parameters => exact settles_parameters h
  | body => exact settles_body hmap h
  | headers => exact settles_headers h

/-- **Which requests pass.** A request to a link passes exactly when it passes every stage. Otherwise
    it is refused as an invalid request, with the report of the first stage that it does not pass.
    The link takes a media type that is a text, if any, and a body of a payload that is a mapping, if
    any; and each stage that the request gets to can be decided. -/
theorem checkRequest_decides {f : Found} (hf : v.found = some f)
    (henc : f.link.encType = .null ∨ ∃ s, f.link.encType = .text s)
    (hmap : ∀ payload, f.link.shape = .body payload → payload = .null ∨ ∃ m, payload = .map m)
    (hconcludes : ∀ stage, v.Reaches f.link request stage → v.Concludes f.link request stage) :
    ((∃ params, v.checkRequest request = .ok params) ↔
        ∀ stage, v.Passes f.link request stage) ∧
      ∀ stage, First (fun s => ¬ v.Passes f.link request s) Stage.order stage →
        ∃ report, v.checkRequest request = .error (.reported report) ∧
          report.kind = .invalidRequest ∧ v.Blames f.link request stage report := by
  have hrun := v.checkRequest_eq request hf
  -- a stage is only ever made to decide when the request gets to it
  have hsettled : ∀ before stage after, Stage.order = before ++ stage :: after →
      (∀ s ∈ before, v.Passes f.link request s) →
      (v.Passes f.link request stage → v.check f.link request stage = .ok ()) ∧
        (¬ v.Passes f.link request stage → ∃ e, v.check f.link request stage = .error e ∧
          ∃ report, e = .reported report ∧ v.Blames f.link request stage report) := by
    intro before stage after horder hbefore
    have hreaches : v.Reaches f.link request stage := by
      rw [Reaches, takeWhile_order horder]
      exact hbefore
    obtain ⟨hp, hn⟩ := settles henc hmap (hconcludes stage hreaches)
    refine ⟨hp, fun h => ?_⟩
    obtain ⟨report, hcheck, hblames⟩ := hn h
    exact ⟨_, hcheck, report, rfl, hblames⟩
  obtain ⟨hpass, hfail⟩ := First.forM_settled hsettled
  have hall : (∀ stage ∈ Stage.order, v.Passes f.link request stage) ↔
      ∀ stage, v.Passes f.link request stage := by
    constructor
    · exact fun h stage => h stage (by cases stage <;> decide)
    · exact fun h stage _ => h stage
  rw [← hrun] at hpass hfail
  constructor
  · rw [← hall, ← hpass, Outcome.map_eq_ok]
    simp
  · intro stage hfirst
    obtain ⟨e, he, report, hreport, hblames⟩ := hfail stage hfirst
    refine ⟨report, ?_, hblames.kind, hblames⟩
    cases hchecked : v.checkRequest request with
    | ok params =>
        rw [hchecked] at he
        cases he
    | error e' =>
        rw [hchecked] at he
        cases he
        rw [hreport]

/-- A link that takes a body with a name. -/
def namedLink : Link where
  method := "POST"
  href := "/pets"
  encType := .text "application/json"
  mediaType := .text "application/json"
  successStatus := none
  shape := .body (.object [("type", .text "object"), ("required", .texts ["name"])])
  bodyRequired := true
  headerSchema := none
  targetSchema := none

def namedValidator : Validator :=
  ⟨⟨⟨.map [], "", .standard, []⟩, none, .standard⟩, some ⟨namedLink, []⟩⟩

/-- A request whose body has no name, with a content type that only looks different. -/
def namelessRequest : Request :=
  ⟨"POST", "/pets", "", [], [], [], .map [], some " Application/JSON ; charset=utf-8"⟩

theorem namelessRequest_refused :
    ∃ report, namedValidator.checkRequest namelessRequest = .error (.reported report) ∧
      report.kind = .invalidRequest ∧
      report.errors = ["<root>: 'name' is a required property"] := by
  have hbody : ∀ payload, namedLink.shape = .body (.map payload) →
      payload = [(.text "type", .text "object"), (.text "required", .texts ["name"])] := by
    rintro payload ⟨⟩
    rfl
  have hcontent : namedValidator.Passes namedLink namelessRequest .contentType :=
    .inr (.inr (.inr (.inr (.inr (.inr ⟨_, _, rfl, rfl, by decide +kernel⟩)))))
  have hparameters : namedValidator.Passes namedLink namelessRequest .parameters := by
    rintro schema ⟨⟩
  have hrefused : ¬ namedValidator.Passes namedLink namelessRequest .body := by
    intro h
    rcases h _ rfl with ⟨hnull, -⟩ | ⟨-, hacc⟩
    · cases hnull
    · exact absurd hacc (by decide +kernel)
  have hfirst : First (fun s => ¬ namedValidator.Passes namedLink namelessRequest s)
      Stage.order .body :=
    .later (not_not.2 hcontent) (.later (not_not.2 hparameters) (.here hrefused))
  obtain ⟨report, hreport, hkind, hblames⟩ :=
    (checkRequest_decides (v := namedValidator) (f := ⟨namedLink, []⟩) rfl (.inr ⟨_, rfl⟩)
      (by
        rintro payload ⟨⟩
        exact .inr ⟨_, rfl⟩)
      (by
        intro stage _
        cases stage with
        | contentType => trivial
        | parameters => rintro schema ⟨⟩
        | body =>
            intro payload hpayload _
            rw [hbody payload hpayload]
            decide +kernel
        | headers => rintro - schema ⟨⟩)).2 .body hfirst
  refine ⟨report, hreport, hkind, ?_⟩
  obtain ⟨payload, hpayload, ⟨hnull, -⟩ | ⟨-, rfl⟩⟩ := hblames
  · cases hnull
  · rw [hbody payload hpayload]
    decide +kernel

end Validator

end ApiRouter

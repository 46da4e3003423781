import ApiRouter.Proofs.CommandRouting
import ApiRouter.Proofs.InlinedSchema

set_option autoImplicit false

/-! # What is shown of a link

The schemas for parameters, body and response are shown with their references inlined, so what is
left in them lies on a cycle. The schema for headers is shown as it was written. -/

namespace ApiRouter

namespace Reference

variable {root v w : Value} {r : String} {left : Entries} {ref : Value}

/-- What inlining leaves of the references of a payload lies on cycles. -/
theorem inline_remaining (h : inline v root = .ok w) (hleft : Part w (.map left))
    (href : Entries.find? left "$ref" = some ref) :
    ∃ r, ref = .text r ∧ Reaches root v r ∧ OnCycle root r :=
  (inlineWith_eq_ok.1 h).remaining (fun _ hr => absurd hr List.not_mem_nil) hleft href

/-- Where no reference is written none is reached. -/
theorem not_reaches_of_references (hv : references v = []) : ¬ Reaches root v r := by
  rintro ⟨entries, hvisits, href⟩
  generalize hx : Value.map entries = x at hvisits
  induction hvisits with
  | here =>
      subst hx
      exact absurd (mem_references_self href) (by rw [hv]; exact List.not_mem_nil)
  | item hmem _ ih => exact ih (List.subset_nil.1 (hv ▸ references_of_mem hmem)) hx
  | entry _ hmem _ ih => exact ih (List.subset_nil.1 (hv ▸ references_of_entry hmem)) hx
  | target href' => exact absurd (mem_references_self href') (by rw [hv]; exact List.not_mem_nil)

/-- A payload without references is what inlining makes of it. -/
theorem eq_of_inline_of_references (h : inline v root = .ok w) (hv : references v = []) :
    w = v := by
  have hrun := inlineWith_eq_ok.1 h
  have hfree := hrun.refFree fun r hr => absurd hr (not_reaches_of_references hv)
  exact (hrun.inlines hfree).eq_of_references hv

end Reference

namespace CommandLine

open Reference

variable {router : Router} {link : Link} {method href : String}
  {schema payload target shown : Value} {left : Entries} {ref : Value}

/-! ## What is shown -/

/-- The payload of a schema; null stands for none. -/
def payloadOf (schema : Option Schema) : Value :=
  .ofOption (fun s : Schema => .map s.data) schema

/-- The payloads of a link whose references are inlined: those for parameters, body and response. -/
def inlinedPayloads (link : Link) : List Value :=
  [payloadOf link.shape.schema?, link.shape.payload, payloadOf link.targetSchema]

/-- What is shown of a link whose payloads have become these; the payload for headers stands as it
is. -/
def page (link : Link) (schema payload target : Value) : Value :=
  .object
    [("method", .text link.method), ("href", .text link.href), ("schema", schema),
      ("schema_data", payload), ("body_required", .bool link.bodyRequired),
      ("header_schema", payloadOf link.headerSchema),
      ("status_success", statusValue link.successStatus), ("target_schema", target)]

/-- The payloads become these when their references are inlined. -/
structure Inlined (api : Api) (link : Link) (schema payload target : Value) : Prop where
  schema : api.inline (payloadOf link.shape.schema?) = .ok schema
  payload : api.inline link.shape.payload = .ok payload
  target : api.inline (payloadOf link.targetSchema) = .ok target

theorem inlinedPayload_eq (router : Router) (schema : Option Schema) :
    inlinedPayload router schema = router.api.inline (payloadOf schema) := by
  cases schema with
  | none => rfl
  | some s => rfl

theorem showLink_eq (h : router.api.findLink? method href = some link) :
    showLink router method href = (do
      let schema ← router.api.inline (payloadOf link.shape.schema?)
      let payload ← router.api.inline link.shape.payload
      let target ← router.api.inline (payloadOf link.targetSchema)
      .ok (page link schema payload target)) := by
  simp only [showLink, h, inlinedPayload_eq]
  rfl

theorem showLink_eq_ok (h : router.api.findLink? method href = some link) :
    showLink router method href = .ok shown ↔
      ∃ schema payload target, Inlined router.api link schema payload target ∧
        shown = page link schema payload target := by
  rw [showLink_eq h]
  simp only [Outcome.bind_eq_ok, Except.ok.injEq]
  constructor
  · rintro ⟨schema, hschema, payload, hpayload, target, htarget, rfl⟩
    exact ⟨schema, payload, target, ⟨hschema, hpayload, htarget⟩, rfl⟩
  · rintro ⟨schema, payload, target, ⟨hschema, hpayload, htarget⟩, rfl⟩
    exact ⟨schema, hschema, payload, hpayload, target, htarget, rfl⟩

/-- Nothing is shown only when one of the payloads cannot be inlined. -/
theorem exists_of_showLink_eq_error {e : Failure}
    (h : router.api.findLink? method href = some link)
    (he : showLink router method href = .error e) :
    ∃ p ∈ inlinedPayloads link, router.api.inline p = .error e := by
  rw [showLink_eq h] at he
  simp only [Outcome.bind_eq_error] at he
  rcases he with he | ⟨schema, -, he | ⟨payload, -, he | ⟨target, -, he⟩⟩⟩
  · exact ⟨_, .head _, he⟩
  · exact ⟨_, .tail _ (.head _), he⟩
  · exact ⟨_, .tail _ (.tail _ (.head _)), he⟩
  · cases he

/-! ## What is left -/

/-- A reference in what is shown lies on a cycle, or stands in the payload for headers. -/
theorem Inlined.remaining (h : Inlined router.api link schema payload target)
    (hleft : Part (page link schema payload target) (.map left))
    (href : Entries.find? left "$ref" = some ref) :
    (∃ r, ref = .text r ∧ OnCycle router.api.referenceRoot r) ∨
      Part (payloadOf link.headerSchema) (.map left) := by
  have hcycle {p v : Value} (hp : router.api.inline p = .ok v) (hpart : Part v (.map left)) :
      ∃ r, ref = .text r ∧ OnCycle router.api.referenceRoot r := by
    obtain ⟨r, hr, -, hcycle⟩ := inline_remaining hp hpart href
    exact ⟨r, hr, hcycle⟩
  rw [page, Value.object] at hleft
  cases hleft with
  | whole => cases href
  | entry _ hmem hpart =>
      simp only [List.map_cons, List.map_nil, List.mem_cons, Prod.mk.injEq, List.not_mem_nil,
        or_false] at hmem
      -- the other entries hold scalars, in which nothing is written
      rcases hmem with ⟨-, rfl⟩ | ⟨-, rfl⟩ | ⟨-, rfl⟩ | ⟨-, rfl⟩ | ⟨-, rfl⟩ | ⟨-, rfl⟩ | ⟨-, rfl⟩ |
        ⟨-, rfl⟩
      · cases hpart
      · cases hpart
      · exact .inl (hcycle h.schema hpart)
      · exact .inl (hcycle h.payload hpart)
      · cases hpart
      · exact .inr hpart
      · cases hstatus : link.successStatus with
        | none =>
            rw [hstatus] at hpart
            cases hpart
        | some n =>
            rw [hstatus] at hpart
            cases hpart
      · exact .inl (hcycle h.target hpart)

/-! ## Showing -/

/-- **Links are shown with their references inlined.** Where the references of the payloads for
    parameters, body and response can be followed, these are shown as inlining makes them, or
    nothing is shown because a payload goes on without end or is nested too deeply for the steps
    that may be under way. A reference that is left in what is shown lies on a cycle, unless it
    stands in the payload for headers, which is shown as it is: that is what inlining makes of it
    when no reference is written in it. A command prints what is shown. -/
theorem showLink_inlines (hlink : router.api.findLink? method href = some link)
    (hresolvable : ∀ p ∈ inlinedPayloads link, Resolvable router.api.referenceRoot p) :
    ((∃ schema payload target, Inlined router.api link schema payload target ∧
        showLink router method href = .ok (page link schema payload target) ∧
        ∀ left ref, Part (page link schema payload target) (.map left) →
          Entries.find? left "$ref" = some ref →
          (∃ r, ref = .text r ∧ OnCycle router.api.referenceRoot r) ∨
            Part (payloadOf link.headerSchema) (.map left)) ∨
      showLink router method href = defect .endless ∧
        ∃ p ∈ inlinedPayloads link, Visits router.api.referenceRoot p .endless ∨
          stepLimit < roomFor router.api.referenceRoot p) ∧
      (references (payloadOf link.headerSchema) = [] →
        ∀ headers, router.api.inline (payloadOf link.headerSchema) = .ok headers →
          headers = payloadOf link.headerSchema) ∧
      ∀ w o c, (compile w c).router = .ok router →
        runCommand w o (c.doing (.showLink method href))
          = printed w o (noticeText w c) none (showLink router method href) := by
  refine ⟨?_, fun hnone headers hheaders => eq_of_inline_of_references hheaders hnone,
    fun w o c hrouter => runCommand_showLink hrouter method href⟩
  cases hshow : showLink router method href with
  | ok shown =>
      obtain ⟨schema, payload, target, hinlined, rfl⟩ := (showLink_eq_ok hlink).1 hshow
      exact .inl ⟨schema, payload, target, hinlined, rfl, fun left ref => hinlined.remaining⟩
  | error e =>
      obtain ⟨p, hp, he⟩ := exists_of_showLink_eq_error hlink hshow
      obtain ⟨rfl, hwhy⟩ := inlineWith_nil_error (hresolvable p hp) he
      exact .inr ⟨rfl, p, hp, hwhy⟩

/-- A document in which a node leads on to the next one, and whose only link takes a node in the
body and numbers in a header. -/
def nodeDocument : Entries :=
  [(.text "swagger", .text "2.0"),
    (.text "definitions", .object
      [("Id", .object [("type", .text "integer")]),
        ("Node", .object [("next", referTo "#/definitions/Node")])]),
    (.text "paths", .object [("/nodes", .object [("post", .object [("parameters", .list
      [.object [("name", .text "node"), ("in", .text "body"),
          ("schema", referTo "#/definitions/Node")],
        .object [("name", .text "X-Ids"), ("in", .text "header"), ("type", .text "array"),
          ("items", referTo "#/definitions/Id")]])])])])]

/-- What its references point into. -/
def nodeRoot : Value :=
  .object [("definitions", Entries.get nodeDocument "definitions")]

/-- The payload for its header, with a payload for the numbers. -/
def idsPayload (items : Value) : Value :=
  .object [("type", .texts ["object"]), ("properties", .object
    [("X-Ids", .object [("type", .texts ["array"]), ("items", items)])])]

/-- A router for the document. -/
def nodeRouter (api : Api) : Router := .ofApi api none .standard

theorem exists_nodeLink :
    ∃ api link, Api.compile nodeDocument .standard = .ok api ∧
      api.findLink? "POST" "/nodes" = some link ∧ api.referenceRoot = nodeRoot ∧
      inlinedPayloads link = [.null, referTo "#/definitions/Node", .null] ∧
      payloadOf link.headerSchema = idsPayload (referTo "#/definitions/Id") := by
  have hparts : (Api.compile nodeDocument .standard).toOption.map (fun api =>
      (api.referenceRoot, (api.findLink? "POST" "/nodes").map fun link =>
        (inlinedPayloads link, payloadOf link.headerSchema)))
        = some (nodeRoot, some ([.null, referTo "#/definitions/Node", .null],
          idsPayload (referTo "#/definitions/Id"))) := by
    decide +kernel
  obtain ⟨api, hcompile, hparts⟩ := Outcome.exists_of_toOption_map hparts
  obtain ⟨hroot, hlink⟩ := Prod.mk.inj hparts
  obtain ⟨link, hlink, hpayloads⟩ := Option.map_eq_some_iff.1 hlink
  obtain ⟨hpayloads, hheaders⟩ := Prod.mk.inj hpayloads
  exact ⟨api, link, hcompile, hlink, hroot, hpayloads, hheaders⟩

/-- All its references can be followed. -/
theorem nodeRoot_resolvable :
    ∀ p ∈ [.null, referTo "#/definitions/Node", .null, idsPayload (referTo "#/definitions/Id")],
      Resolvable nodeRoot p := by
  have hfollow : ∀ p ∈ [.null, referTo "#/definitions/Node", .null,
      idsPayload (referTo "#/definitions/Id")], ∀ ref ∈ references p ++ references nodeRoot,
        (Pointer.followValue nodeRoot ref).toBool = true := by
    decide +kernel
  exact fun p hp => .of_references fun ref href => Outcome.exists_of_toBool (hfollow p hp ref href)

/-- Where its references lead, and what inlining makes of its payloads. -/
theorem inline_nodeRoot :
    inline (referTo "#/definitions/Node") nodeRoot
        = .ok (.object [("next", referTo "#/definitions/Node")]) ∧
      Pointer.follow nodeRoot "#/definitions/Id" = .ok (.object [("type", .text "integer")]) ∧
      inline (idsPayload (referTo "#/definitions/Id")) nodeRoot
        = .ok (idsPayload (.object [("type", .text "integer")])) :=
  ⟨by decide +kernel, by decide +kernel, by decide +kernel⟩

theorem inlined_node {api : Api} (hroot : api.referenceRoot = nodeRoot)
    (hpayloads : inlinedPayloads link = [.null, referTo "#/definitions/Node", .null]) :
    Inlined api link .null (.object [("next", referTo "#/definitions/Node")]) .null := by
  simp only [inlinedPayloads, List.cons.injEq, and_true] at hpayloads
  obtain ⟨hschema, hbody, htarget⟩ := hpayloads
  constructor
  · rw [hschema]
    rfl
  · rw [Api.inline, hbody, hroot]
    exact inline_nodeRoot.1
  · rw [htarget]
    rfl

/-- The node is shown up to where it comes back to itself. -/
theorem showLink_node :
    ∃ api link, Api.compile nodeDocument .standard = .ok api ∧
      api.findLink? "POST" "/nodes" = some link ∧
      (∀ p ∈ inlinedPayloads link, Resolvable api.referenceRoot p) ∧
      ∃ schema target, showLink (nodeRouter api) "POST" "/nodes"
        = .ok (page link schema (.object [("next", referTo "#/definitions/Node")]) target) := by
  obtain ⟨api, link, hcompile, hlink, hroot, hpayloads, -⟩ := exists_nodeLink
  have hresolvable : ∀ p ∈ inlinedPayloads link, Resolvable api.referenceRoot p := by
    rw [hroot, hpayloads]
    exact fun p hp => nodeRoot_resolvable p (List.mem_append_left [idsPayload _] hp)
  have hnode := inlined_node hroot hpayloads
  have hfound : (nodeRouter api).api.findLink? "POST" "/nodes" = some link := hlink
  refine ⟨api, link, hcompile, hlink, hresolvable, ?_⟩
  rcases (showLink_inlines hfound hresolvable).1 with
    ⟨schema, payload, target, hinlined, hshow, -⟩ | ⟨hshow, -⟩
  · cases hinlined.payload.symm.trans hnode.payload
    exact ⟨schema, target, hshow⟩
  · have hshown : showLink (nodeRouter api) "POST" "/nodes" = .ok _ :=
      (showLink_eq_ok hlink).2 ⟨_, _, _, hnode, rfl⟩
    cases hshow.symm.trans hshown

/-- The reference in the header is shown as it was written. It can be followed, lies on no cycle,
    and inlining replaces it. -/
theorem showLink_headers_not_inlined :
    ∃ api link schema payload target headers, Api.compile nodeDocument .standard = .ok api ∧
      api.findLink? "POST" "/nodes" = some link ∧
      (∀ p ∈ inlinedPayloads link ++ [payloadOf link.headerSchema],
        Resolvable api.referenceRoot p) ∧
      showLink (nodeRouter api) "POST" "/nodes" = .ok (page link schema payload target) ∧
      api.inline (payloadOf link.headerSchema) = .ok headers ∧
      headers ≠ payloadOf link.headerSchema ∧
      Part (page link schema payload target) (referTo "#/definitions/Id") ∧
      ¬ OnCycle api.referenceRoot "#/definitions/Id" := by
  obtain ⟨api, link, hcompile, hlink, hroot, hpayloads, hheaders⟩ := exists_nodeLink
  have hresolvable : ∀ p ∈ inlinedPayloads link ++ [payloadOf link.headerSchema],
      Resolvable api.referenceRoot p := by
    rw [hroot, hpayloads, hheaders]
    exact nodeRoot_resolvable
  have hinlined : api.inline (payloadOf link.headerSchema)
      = .ok (idsPayload (.object [("type", .text "integer")])) := by
    rw [Api.inline, hheaders, hroot]
    exact inline_nodeRoot.2.2
  have hpart : Part (payloadOf link.headerSchema) (referTo "#/definitions/Id") := by
    rw [hheaders]
    exact .entry rfl (.tail _ (.head _)) (.entry rfl (.head _) (.entry rfl (.tail _ (.head _))
      (.whole _)))
  refine ⟨api, link, .null, _, .null, _, hcompile, hlink, hresolvable,
    (showLink_eq_ok hlink).2 ⟨_, _, _, inlined_node hroot hpayloads, rfl⟩, hinlined, ?_, ?_, ?_⟩
  · rw [hheaders]
    decide
  · exact .entry rfl (.tail _ (.tail _ (.tail _ (.tail _ (.tail _ (.head _)))))) hpart
  · -- what stands at the place that the pointer names leads nowhere
    rintro ⟨t, ht, hreaches⟩
    rw [hroot] at ht
    cases inline_nodeRoot.2.1.symm.trans ht
    exact not_reaches_of_references rfl hreaches

end CommandLine

end ApiRouter

import ApiRouter.Proofs.LinkFields
import ApiRouter.Proofs.Routing
import ApiRouter.RequestCheck
import Mathlib.Data.List.Induction

set_option autoImplicit false

/-! # Requests without a body

A link tells whether a body is required, and what it has to look like. Checking a request asks for
the second first: where no schema is declared there is nothing that a body would be checked against,
and then none is missed either. -/

namespace ApiRouter

/-! ## The body declaration that counts -/

namespace Parameter

/-- The last declaration of a body. -/
def lastBody? (declared : List Value) : Option Value :=
  declared.reverse.find? (Operation.isIn .body)

/-- The schema that a body declaration carries, null when it has none. -/
def bodyPayload : Value → Value
  | .map d => Entries.get d "schema"
  | _ => .null

namespace Merged

variable {m m' : Merged}

/-- Of several body declarations the last one leaves its schema. -/
theorem body_foldlM_eq {ds : List Value} (h : ds.foldlM addToRequest m = .ok m') :
    m'.body = ((lastBody? ds).map bodyPayload).or m.body := by
  -- from the end of the list, because it is the last declaration that counts
  induction ds using List.reverseRecOn generalizing m' with
  | nil =>
      cases h
      rfl
  | append_singleton ds d ih =>
      rw [List.foldlM_append] at h
      obtain ⟨m₁, hbefore, h⟩ := Outcome.bind_eq_ok.1 h
      rw [List.foldlM_cons] at h
      obtain ⟨m₂, hstep, hrest⟩ := Outcome.bind_eq_ok.1 h
      cases hrest
      have hlast : lastBody? (ds ++ [d])
          = if Operation.isIn .body d then some d else lastBody? ds := by
        rw [lastBody?, List.reverse_append, List.reverse_singleton, List.singleton_append,
          List.find?_cons, lastBody?]
        cases Operation.isIn .body d with
        | true => rfl
        | false => rfl
      cases hd : Operation.isIn .body d with
      | false =>
          rw [hlast, hd, body_addToRequest hd hstep, ih hbefore]
          rfl
      | true =>
          cases d with
          | map e =>
              have hl : locationOf e = some .body := by simpa [Operation.isIn] using hd
              simp only [addToRequest, hl] at hstep
              cases hstep
              rw [hlast, hd]
              rfl
          | _ => cases hstep

end Merged

/-- The body of a request has the schema of the last body declaration. -/
theorem requestShape_of_lastBody {op : Entries} {ds : List Value} {shape : RequestShape} {d : Value}
    (h : requestShape (.map op) = .ok shape) (hget : Entries.get op "parameters" = .list ds)
    (hlast : lastBody? ds = some d) : shape = .body (bodyPayload d) := by
  obtain ⟨declared, hdeclared, h⟩ := Outcome.bind_eq_ok.1 h
  rw [declarations_eq hdeclared hget] at h
  obtain ⟨m, hm, h⟩ := Outcome.bind_eq_ok.1 h
  have hbody : m.body = some (bodyPayload d) := by
    rw [Merged.body_foldlM_eq hm, hlast]
    rfl
  rw [hbody] at h
  simp only at h
  split at h
  · cases h
    rfl
  · cases h

end Parameter

/-- A link that requires a body has the schema of the last body declaration. -/
theorem Operation.HasLink.shape_of_bodyRequired {document : Entries} {op : Operation}
    {declared : List Value} {link : Link} (h : HasLink document op declared link)
    (hrequired : link.bodyRequired = true) :
    ∃ d, Parameter.lastBody? declared = some (.map d) ∧
      link.shape = .body (Entries.get d "schema") := by
  obtain ⟨e, he, hin, -⟩ := h.wellFormed.bodyRequired.1 hrequired
  cases hlast : Parameter.lastBody? declared with
  | none =>
      have hnone := List.find?_eq_none.1 hlast e (List.mem_reverse.2 he)
      exact absurd hin hnone
  | some d =>
      have hshape := Parameter.requestShape_of_lastBody h.shape (op.get_declaring declared) hlast
      have hd : isIn .body d = true := List.find?_some hlast
      cases d with
      | map d => exact ⟨d, rfl, hshape⟩
      | _ => cases hd

/-! ## What is found -/

namespace Router

/-- Whatever a router finds is a link of its document. -/
theorem link_mem_of_find? {r : Router} {method path : String} {f : Found}
    (h : r.find? method path = some f) : (Text.upper method, f.link) ∈ r.api.links := by
  obtain ⟨route, hroute, hanswer⟩ := List.exists_of_findSome?_eq_some h
  obtain ⟨captures, -, rfl⟩ := Option.map_eq_some_iff.1 hanswer
  have hroutes : Ordered.find? r.api.routes (Text.upper method)
      = some (r.api.routesOf method) := by
    unfold Api.routesOf at hroute ⊢
    cases hfind : Ordered.find? r.api.routes (Text.upper method) with
    | none =>
        rw [hfind] at hroute
        cases hroute
    | some routes => rfl
  have hmem := Ordered.mem_of_find? (Ordered.rigid_of_lawful _) hroutes
  exact List.mem_flatMap.2 ⟨_, hmem, List.mem_map.2 ⟨route, hroute, rfl⟩⟩

end Router

/-- Every link of a compiled document is that of a routed member. -/
theorem Api.exists_hasLink {document : Entries} {defaults : Defaults} {api : Api}
    (h : compile document defaults = .ok api) {method : String} {link : Link}
    (hlink : (method, link) ∈ api.links) :
    ∃ m ∈ Member.routed document, ∃ op declared, m.operation? = some op ∧
      Operation.HasLink document op declared link := by
  obtain ⟨-, -, routes, hroutes, hgrouped⟩ := routes_of_compile h
  obtain ⟨r, hr, hrow⟩ := List.mem_map.1 ((links_perm hgrouped).mem_iff.1 hlink)
  cases hrow
  obtain ⟨m, hm, hroute⟩ := exists_of_forall₂ hroutes.flip hr
  obtain ⟨op, hop, hcompiled⟩ := hroute.links
  obtain ⟨declared, hfields⟩ := Operation.link_eq_ok.1 hcompiled
  exact ⟨m, hm, op, declared, hop, hfields⟩

/-! ## Checking a request without a body -/

namespace Validator

variable {v : Validator} {f : Found} {request : Request}

/-- Without a body, a request to a link that takes one is checked for the body and the headers
    only. -/
theorem checkRequest_of_null {payload : Value} (hfound : v.found = some f)
    (hshape : f.link.shape = .body payload) (hnull : request.body = .null) :
    v.checkRequest request = (do
      v.checkBody f.link request
      if v.router.options.checkHeaders then v.checkHeaders f.link request
      .ok []) := by
  have hcontent : checkContentType f.link.encType request = .ok () := by
    rw [checkContentType, hnull]
  have hparams : v.checkParams f.link request = .ok [] := by
    rw [checkParams, hshape]
  simp only [checkRequest, hfound, hcontent, hparams, Outcome.ok_bind, ite_self]

/-- **Required bodies.** A request without a body, to a link of a compiled document that requires
one, is refused for that, whatever else is declared, when the last body declaration of the operation
has a schema. When it has none the body is not missed, and only the headers are checked. -/
theorem checkRequest_requires_body {document : Entries} {defaults : Defaults} {api : Api}
    (h : Api.compile document defaults = .ok api) (mount : Option String) (options : CheckOptions)
    (hfound : (Router.ofApi api mount options).findRequest? request = some f)
    (hrequired : f.link.bodyRequired = true) (hnull : request.body = .null) :
    ∃ m ∈ Member.routed document, ∃ op declared d, m.operation? = some op ∧
      Operation.HasLink document op declared f.link ∧
      Parameter.lastBody? declared = some (.map d) ∧
      f.link.shape = .body (Entries.get d "schema") ∧
      (Entries.get d "schema" ≠ .null →
        (forRequest (Router.ofApi api mount options) request).checkRequest request
          = fail .invalidRequest "Invalid request body: a request body is required") ∧
      (Entries.get d "schema" = .null →
        (forRequest (Router.ofApi api mount options) request).checkRequest request = (do
          if options.checkHeaders then
            (forRequest (Router.ofApi api mount options) request).checkHeaders f.link request
          .ok [])) := by
  obtain ⟨m, hm, op, declared, hop, hlink⟩ :=
    Api.exists_hasLink h (Router.link_mem_of_find? hfound)
  obtain ⟨d, hlast, hshape⟩ := hlink.shape_of_bodyRequired hrequired
  refine ⟨m, hm, op, declared, d, hop, hlink, hlast, hshape, fun hschema => ?_,
    fun hschema => ?_⟩
  · have hbody : (forRequest (Router.ofApi api mount options) request).checkBody f.link request
        = fail .invalidRequest "Invalid request body: a request body is required" := by
      simp only [checkBody, hshape, Parameter.RequestShape.payload, hnull, hrequired, if_true]
    rw [checkRequest_of_null hfound hshape hnull, hbody]
    rfl
  · have hbody : (forRequest (Router.ofApi api mount options) request).checkBody f.link request
        = .ok () := by
      simp only [checkBody, hshape, hschema, Parameter.RequestShape.payload]
    rw [checkRequest_of_null hfound hshape hnull, hbody]
    rfl

/-- A document with one operation, which requires a body and may say more of it. -/
def noteDocument (more : List (String × Value)) : Entries :=
  [(.text "swagger", .text "2.0"), (.text "definitions", .map []),
    (.text "paths", .object [("/notes", .object [("post", .object [("parameters", .list
      [.object ([("name", .text "note"), ("in", .text "body"), ("required", .bool true)]
        ++ more)])])])])]

/-- A request to that operation, without a body. -/
def emptyNote : Request :=
  ⟨"POST", "/notes", "", [], [], [], .null, none⟩

/-- What is found for the request, if the document compiles. -/
def foundNote (more : List (String × Value)) : Option (Api × Found) :=
  (Api.compile (noteDocument more) .standard).toOption.bind fun api =>
    ((Router.ofApi api none .standard).findRequest? emptyNote).map fun f => (api, f)

theorem exists_of_foundNote (more : List (String × Value)) (t : Api × Found → Bool)
    (h : (foundNote more).any t = true) :
    ∃ api f, Api.compile (noteDocument more) .standard = .ok api ∧
      (Router.ofApi api none .standard).findRequest? emptyNote = some f ∧ t (api, f) = true := by
  obtain ⟨⟨api, f⟩, hfound, ht⟩ := (Option.any_eq_true _ _).1 h
  obtain ⟨api', hapi, hf⟩ := Option.bind_eq_some_iff.1 hfound
  obtain ⟨f', hf', hpair⟩ := Option.map_eq_some_iff.1 hf
  cases hpair
  cases hcompiled : Api.compile (noteDocument more) .standard with
  | error e =>
      rw [hcompiled] at hapi
      cases hapi
  | ok api' =>
      rw [hcompiled] at hapi
      cases hapi
      exact ⟨api, f, rfl, hf', ht⟩

theorem emptyNote_refused :
    ∃ api f, Api.compile (noteDocument [("schema", .object [("type", .text "string")])]) .standard
        = .ok api ∧
      (Router.ofApi api none .standard).findRequest? emptyNote = some f ∧
      f.link.bodyRequired = true ∧ emptyNote.body = .null ∧
      (forRequest (Router.ofApi api none .standard) emptyNote).checkRequest emptyNote
        = fail .invalidRequest "Invalid request body: a request body is required" := by
  obtain ⟨api, f, hapi, hfound, hfacts⟩ := exists_of_foundNote
    [("schema", .object [("type", .text "string")])]
    (fun x => x.2.link.bodyRequired && x.2.link.shape.payload != .null) (by decide +kernel)
  obtain ⟨hrequired, hpayload⟩ := Bool.and_eq_true_iff.1 hfacts
  obtain ⟨-, -, -, -, d, -, -, -, hshape, hrefused, -⟩ :=
    checkRequest_requires_body hapi none .standard hfound hrequired rfl
  refine ⟨api, f, hapi, hfound, hrequired, rfl, hrefused fun hschema => ?_⟩
  rw [hshape, Parameter.RequestShape.payload, hschema] at hpayload
  cases hpayload

/-- A required body that is declared without a schema is not missed. -/
theorem emptyNote_not_refused :
    ∃ api f, Api.compile (noteDocument []) .standard = .ok api ∧
      (Router.ofApi api none .standard).findRequest? emptyNote = some f ∧
      f.link.bodyRequired = true ∧ emptyNote.body = .null ∧
      (forRequest (Router.ofApi api none .standard) emptyNote).checkRequest emptyNote = .ok [] := by
  obtain ⟨api, f, hapi, hfound, hfacts⟩ := exists_of_foundNote []
    (fun x => x.2.link.bodyRequired && ((forRequest (Router.ofApi x.1 none .standard)
      emptyNote).checkRequest emptyNote).toOption == some []) (by decide +kernel)
  obtain ⟨hrequired, hpasses⟩ := Bool.and_eq_true_iff.1 hfacts
  refine ⟨api, f, hapi, hfound, hrequired, rfl, ?_⟩
  cases hchecked : (forRequest (Router.ofApi api none .standard) emptyNote).checkRequest emptyNote with
  | error e =>
      rw [hchecked] at hpasses
      cases hpasses
  | ok params =>
      rw [hchecked] at hpasses
      rw [Option.some.inj (beq_iff_eq.1 hpasses)]

end Validator

end ApiRouter

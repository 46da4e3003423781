import ApiRouter.Proofs.Acceptance
import ApiRouter.Proofs.Collection
import ApiRouter.Proofs.Link
import ApiRouter.Proofs.RequestDecision

set_option autoImplicit false

/-! # Declared parameters are guarded

A request that passes carries no declared parameter with a value that its declaration does not
accept. Of several declarations of one name the last counts, and of several values under one name the
one of the last source: whatever is overridden is not looked at. -/

namespace ApiRouter

/-- The last declaration of a parameter of the given name. -/
def Parameter.IsLast (declared : List Value) (name : String) (d : Entries) : Prop :=
  ∃ before after, declared = before ++ .map d :: after ∧ Entries.get d "name" = .text name ∧
    ∀ e ∈ after, ¬ Parameter.Declares name e

namespace Validator

variable {v : Validator} {request : Request}

/-- A request that passes has parameters that the schema of its link accepts. -/
theorem accepts_of_checkRequest {f : Found} {schema : Schema} {params : List (String × Value)}
    (hfound : v.found = some f) (hshape : f.link.shape = .parameters schema)
    (h : v.checkRequest request = .ok params) :
    ∃ collected, v.Collects request schema collected ∧
      Schema.Accepts schema.data v.definitions (.object collected) := by
  have hrun := v.checkRequest_eq request hfound
  rw [h] at hrun
  have hcheck : v.check f.link request .parameters = .ok () :=
    Outcome.forM_eq_ok.1 hrun.symm .parameters (by decide)
  obtain ⟨checked, hchecked, -⟩ := Outcome.map_eq_ok.1 hcheck
  simp only [checkParams, hshape] at hchecked
  obtain ⟨collected, hcollected, hchecked⟩ := Outcome.bind_eq_ok.1 hchecked
  obtain ⟨⟨⟩, hrequire, -⟩ := Outcome.bind_eq_ok.1 hchecked
  exact ⟨collected, hcollected, Schema.accepts_of_require hrequire⟩

end Validator

namespace Parameter.Merged

theorem find?_ref_objectPayload (m : Merged) : Entries.find? m.objectPayload "$ref" = none :=
  m.find?_objectPayload_eq_none (by decide)

end Parameter.Merged

namespace Validator

variable {v : Validator} {request : Request}

/-- **Declared parameters are guarded.** When a request to an operation without a body passes, the
    value that a source holds for a parameter declared there, and that no later source overrides, is
    accepted after its coercion by the declaration, if that is the last one of its name: within the
    schema of all parameters, and by itself when it has no items to describe. -/
theorem checkRequest_guards {document : Entries} {op : Operation} {declared : List Value}
    {f : Found} {params : List (String × Value)} {source : Source} {name : String} {d : Entries}
    {x : Value} (hlink : op.link document = .ok f.link) (hdeclared : op.Declares declared)
    (hbody : declared.any (Operation.isIn .body) = false) (hfound : v.found = some f)
    (hok : v.checkRequest request = .ok params) (hlast : Parameter.IsLast declared name d)
    (hlocation : Parameter.locationOf d = some source.location)
    (hx : source.Prevails v request name x) :
    ∃ whole part y, f.link.shape = .parameters whole ∧ Parameter.schemaOf d = .ok part ∧
      source.coerced v whole name x = .ok y ∧
      Schema.AcceptsPart whole.data v.definitions (.map part.data) y ∧
      (Entries.find? d "items" = none → Schema.Accepts part.data v.definitions y) := by
  obtain ⟨declared', hfields⟩ := Operation.link_eq_ok.1 hlink
  have hsame : declared' = declared := Except.ok.inj (hfields.declares.symm.trans hdeclared)
  subst hsame
  obtain ⟨m, whole, hm, hshape, hdata⟩ :=
    Parameter.requestShape_eq_ok hfields.shape (Operation.get_declaring op _) hbody
  -- what the schema of all parameters has under the name is the payload of the last declaration
  obtain ⟨before, after, rfl, hname, hafter⟩ := hlast
  have hdeclares : Parameter.Declares name (.map d) := by
    refine ⟨d, rfl, hname, ?_⟩
    cases source with
    | query => exact .inr (.inl hlocation)
    | form => exact .inr (.inr hlocation)
    | path => exact .inl hlocation
  obtain ⟨d', part, hd', hpart, hproperty⟩ := Parameter.Merged.find?_foldlM hm hdeclares hafter
  cases hd'
  have hsub : (Scalar.text name, Value.map part.data)
      ∈ m.properties.map fun p => (p.1, Value.map p.2) :=
    List.mem_map.2 ⟨_, Ordered.mem_of_find? (Scalar.rigid_text name) hproperty, rfl⟩
  -- what the request carries under the name is the value of the source
  obtain ⟨collected, hcollected, haccepts⟩ := accepts_of_checkRequest hfound hshape hok
  obtain ⟨y, hy, hvalue⟩ := find?_collectParams hcollected hx
  rw [hdata] at haccepts
  have hpartial : Schema.AcceptsPart m.objectPayload v.definitions (.map part.data) y :=
    haccepts.property m.find?_ref_objectPayload m.find?_properties_objectPayload hsub
      ((Entries.find?_object collected name).trans hvalue)
  refine ⟨whole, part, y, hshape, hpart, hy, hdata ▸ hpartial, fun hitems => ?_⟩
  refine Schema.AcceptsPart.accepts (fun e he => ?_) hpartial
  obtain ⟨k, hk, hek, hkd⟩ := Parameter.key_of_mem_payload (Parameter.schemaOf_eq_ok hpart) he
  exact ⟨k, hk, hek, fun hitem => hkd (hitem ▸ hitems)⟩

/-- A declaration of a number in the query. -/
def numberDeclaration : Entries :=
  [(.text "name", .text "id"), (.text "in", .text "query"), (.text "type", .text "integer")]

def numberOperation : Operation :=
  ⟨.text "/pets", "GET", .list [], [(.text "parameters", .list [.map numberDeclaration])]⟩

/-- A validator that found a link. -/
def forLink (link : Link) : Validator :=
  ⟨⟨⟨.map [], "", .standard, []⟩, none, .standard⟩, some ⟨link, []⟩⟩

/-- A request with something under the name `id` in its query, and perhaps in its form. -/
def requestWith (query : String) (form : List String) : Request :=
  ⟨"GET", "/pets", "", [("id", .text query)], form.map fun s => ("id", .text s), [], .null, none⟩

theorem numberOperation_declares : numberOperation.Declares [.map numberDeclaration] := rfl

/-- Whether a test holds of the compiled operation: of its link, the schema of all its parameters,
    and that of the one declaration. -/
def numberCheck (t : Link → (whole part : Schema) → Bool) : Bool :=
  match numberOperation.link [], Parameter.schemaOf numberDeclaration with
  | .ok link, .ok part =>
    match link.shape with
    | .parameters whole => t link whole part
    | .body _ => false
  | _, _ => false

theorem exists_of_numberCheck {t : Link → (whole part : Schema) → Bool}
    (h : numberCheck t = true) :
    ∃ link whole part, numberOperation.link [] = .ok link ∧ link.shape = .parameters whole ∧
      Parameter.schemaOf numberDeclaration = .ok part ∧ t link whole part = true := by
  unfold numberCheck at h
  split at h
  · next link part hlink hpart =>
      split at h
      · next whole hshape => exact ⟨link, whole, part, hlink, hshape, hpart, h⟩
      · cases h
  · cases h

theorem number_guarded :
    ∃ link whole part, numberOperation.link [] = .ok link ∧ link.shape = .parameters whole ∧
      Parameter.schemaOf numberDeclaration = .ok part ∧
      Schema.AcceptsPart whole.data (forLink link).definitions (.map part.data) (.int 7) ∧
      Schema.Accepts part.data (forLink link).definitions (.int 7) := by
  obtain ⟨link, whole, part, hlink, hshape, hpart, htest⟩ := exists_of_numberCheck
    (t := fun link whole _ => ((forLink link).checkRequest (requestWith "7" [])).toBool &&
      (Source.query.coerced (forLink link) whole "id" (.text "7")).toOption == some (.int 7))
    (by decide +kernel)
  obtain ⟨hpasses, hcoerced⟩ := Bool.and_eq_true_iff.1 htest
  obtain ⟨params, hparams⟩ := Outcome.exists_of_toBool hpasses
  have hprevails : Source.query.Prevails (forLink link) (requestWith "7" []) "id" (.text "7") := by
    refine ⟨rfl, fun s hs => ?_⟩
    cases s with
    | query => exact absurd hs (by decide)
    | form => rfl
    | path => rfl
  obtain ⟨whole', part', y, hshape', hpart', hy, hacceptsPart, haccepts⟩ :=
    checkRequest_guards (f := ⟨link, []⟩) hlink numberOperation_declares (by decide +kernel) rfl
      hparams ⟨[], [], rfl, rfl, by simp⟩ rfl hprevails
  rw [hshape] at hshape'
  cases hshape'
  rw [hpart] at hpart'
  cases hpart'
  rw [hy] at hcoerced
  cases Option.some.inj (beq_iff_eq.1 hcoerced)
  exact ⟨link, whole, part, hlink, hshape, hpart, hacceptsPart, haccepts rfl⟩

/-- An overridden value is not looked at: the query holds no number, and the request passes. -/
theorem overridden_not_guarded :
    ∃ link whole part params, numberOperation.link [] = .ok link ∧
      link.shape = .parameters whole ∧ Parameter.schemaOf numberDeclaration = .ok part ∧
      (forLink link).checkRequest (requestWith "x" ["5"]) = .ok params ∧
      Source.query.value? (forLink link) (requestWith "x" ["5"]) "id" = some (.text "x") ∧
      (Source.query.coerced (forLink link) whole "id" (.text "x")).toOption = some (.text "x") ∧
      ¬ Schema.Accepts part.data (forLink link).definitions (.text "x") := by
  obtain ⟨link, whole, part, hlink, hshape, hpart, htest⟩ := exists_of_numberCheck
    (t := fun link whole part =>
      ((forLink link).checkRequest (requestWith "x" ["5"])).toBool &&
      (Source.query.coerced (forLink link) whole "id" (.text "x")).toOption == some (.text "x") &&
      !decide (Schema.Accepts part.data (.map []) (.text "x")))
    (by decide +kernel)
  obtain ⟨htest, hrefused⟩ := Bool.and_eq_true_iff.1 htest
  obtain ⟨hpasses, hcoerced⟩ := Bool.and_eq_true_iff.1 htest
  obtain ⟨params, hparams⟩ := Outcome.exists_of_toBool hpasses
  have hnot : ¬ Schema.Accepts part.data (.map []) (.text "x") := by simpa using hrefused
  exact ⟨link, whole, part, params, hlink, hshape, hpart, hparams, rfl, beq_iff_eq.1 hcoerced, hnot⟩

end Validator

end ApiRouter

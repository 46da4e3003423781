import ApiRouter.Proofs.Link
import Mathlib.Data.List.Basic

set_option autoImplicit false

/-! # Which shared declarations an operation overrides

The declarations that the operations of a path share are dropped where an operation declares the
same parameter itself. Two declarations are taken for the same parameter when their names and their
locations are written alike. That is less than having one name and being in one location: a location
that is left out is the query, and form data goes by two names. -/

namespace ApiRouter.Operation

/-! ## The same parameter -/

/-- A declaration with a name, in a location that is recognised. -/
def IsRegular (declaration : Value) : Prop :=
  ∃ d name location, declaration = .map d ∧ Entries.find? d "name" = some (.scalar name) ∧
    Parameter.locationOf d = some location

/-- The name and the location of a declaration. -/
def parameterOf? (declaration : Value) : Option (Scalar × Location) :=
  match declaration with
  | .map d =>
    match Entries.get d "name", Parameter.locationOf d with
    | .scalar name, some location => some (name, location)
    | _, _ => none
  | _ => none

/-- Whether two declarations have one name and are in one location. -/
def sameParameter (declaration other : Value) : Bool :=
  match parameterOf? declaration, parameterOf? other with
  | some (name, location), some (name', location') => name == name' && location == location'
  | _, _ => false

/-- Whether the names and the locations of two declarations are written alike. -/
def writtenAlike (declaration other : Value) : Bool :=
  match identity declaration, identity other with
  | .ok id, .ok id' => id == id'
  | _, _ => false

/-- The shared declarations that are the same as none of the operation's own. -/
def kept (same : Value → Value → Bool) (shared own : List Value) : List Value :=
  shared.filter fun d => !own.any (same d)

theorem kept_kept (same : Value → Value → Bool) (shared own : List Value) :
    kept same (kept same shared own) own = kept same shared own := by
  rw [kept, kept, List.filter_filter]
  simp

/-- A recognised location is left out, and then the query, or it is a text that names it. -/
theorem locationOf_eq_some {d : Entries} {location : Location}
    (h : Parameter.locationOf d = some location) :
    Entries.find? d "in" = none ∧ location = .query ∨
      ∃ s, Entries.find? d "in" = some (.text s) ∧ Location.ofName? s = some location := by
  unfold Parameter.locationOf at h
  split at h
  · next hfind =>
      cases h
      exact .inl ⟨hfind, rfl⟩
  · next s hfind => exact .inr ⟨s, hfind, h⟩
  · cases h

theorem identity_eq {d : Entries} {name written : Scalar}
    (hname : Entries.get d "name" = .scalar name) (hin : Entries.get d "in" = .scalar written) :
    identity (.map d) = .ok (name, written) := by
  simp only [identity, hname, hin]

/-- How a regular declaration writes its name and its location. -/
theorem IsRegular.written {declaration : Value} (h : IsRegular declaration) :
    ∃ name location written, parameterOf? declaration = some (name, location) ∧
      identity declaration = .ok (name, written) ∧
      (written = .null ∧ location = .query ∨
        ∃ s, written = .text s ∧ Location.ofName? s = some location) := by
  obtain ⟨d, name, location, rfl, hname, hlocation⟩ := h
  have hget : Entries.get d "name" = .scalar name := by rw [Entries.get, hname, Option.getD_some]
  have hparameter : parameterOf? (.map d) = some (name, location) := by
    simp only [parameterOf?, hget, hlocation]
  rcases locationOf_eq_some hlocation with ⟨hin, rfl⟩ | ⟨s, hin, hs⟩
  · have hin' : Entries.get d "in" = .null := by rw [Entries.get, hin, Option.getD_none]
    exact ⟨name, .query, .null, hparameter, identity_eq hget hin', .inl ⟨rfl, rfl⟩⟩
  · have hin' : Entries.get d "in" = .text s := by rw [Entries.get, hin, Option.getD_some]
    exact ⟨name, location, .text s, hparameter, identity_eq hget hin', .inr ⟨s, rfl, hs⟩⟩

/-- Declarations that are written alike are of the same parameter. -/
theorem sameParameter_of_writtenAlike {d o : Value} (hd : IsRegular d) (ho : IsRegular o)
    (h : writtenAlike d o = true) : sameParameter d o = true := by
  obtain ⟨name, location, written, hparameter, hidentity, hwritten⟩ := hd.written
  obtain ⟨name', location', written', hparameter', hidentity', hwritten'⟩ := ho.written
  simp only [writtenAlike, hidentity, hidentity'] at h
  obtain ⟨hname, hin⟩ := Bool.and_eq_true_iff.1 h
  have hlocation : location = location' := by
    rcases hwritten with ⟨rfl, rfl⟩ | ⟨s, rfl, hs⟩
    · rcases hwritten' with ⟨rfl, rfl⟩ | ⟨s, rfl, hs⟩
      · rfl
      · cases (Scalar.rigid_text s).beq_left _ |>.1 hin
    · rcases hwritten' with ⟨rfl, rfl⟩ | ⟨s', rfl, hs'⟩
      · cases (Scalar.rigid_text s).beq_right _ |>.1 hin
      · cases (Scalar.rigid_text s').beq_left _ |>.1 hin
        exact Option.some.inj (hs.symm.trans hs')
  simp only [sameParameter, hparameter, hparameter', hname, hlocation]
  simp

/-! ## Merging -/

/-- The merged declarations are the shared ones that the operation does not write alike, then its
own. -/
theorem mergedParameters_of_identities {shared own : List Value}
    (hshared : ∀ d ∈ shared, ∃ id, identity d = .ok id)
    (hown : ∀ d ∈ own, ∃ id, identity d = .ok id) :
    mergedParameters (.list shared) (.list own) = .ok (kept writtenAlike shared own ++ own) := by
  obtain ⟨overridden, hoverridden⟩ := Outcome.exists_mapM_eq_ok hown
  have hcontains {d : Value} {id : Scalar × Scalar} (hid : identity d = .ok id) :
      overridden.contains id = own.any (writtenAlike d) := by
    have hrows := Outcome.mapM_eq_ok.1 hoverridden
    clear hown hoverridden
    induction hrows with
    | nil => rfl
    | cons ho _ ih =>
        rw [List.contains_cons, List.any_cons, ih]
        simp only [writtenAlike, hid, ho]
  have hkept : shared.filterMapM (fun d => do
      let id ← identity d
      .ok (if overridden.contains id then none else some d))
        = .ok (kept writtenAlike shared own) := by
    refine Outcome.filterMapM_eq_filter fun d hd => ?_
    obtain ⟨id, hid⟩ := hshared d hd
    rw [hid, Outcome.ok_bind, hcontains hid]
    cases own.any (writtenAlike d) with
    | true => rfl
    | false => rfl
  have hparts (ds : List Value) : Schema.partsOf (.list ds) = .ok ds := rfl
  rw [mergedParameters, hparts, hparts, Outcome.ok_bind, hoverridden, Outcome.ok_bind,
    Outcome.ok_bind, hkept, Outcome.ok_bind]

theorem IsRegular.exists_identity {d : Value} (h : IsRegular d) : ∃ id, identity d = .ok id := by
  obtain ⟨name, -, written, -, hid, -⟩ := h.written
  exact ⟨(name, written), hid⟩

theorem mergedParameters_eq {shared own : List Value} (hshared : ∀ d ∈ shared, IsRegular d)
    (hown : ∀ d ∈ own, IsRegular d) :
    mergedParameters (.list shared) (.list own) = .ok (kept writtenAlike shared own ++ own) :=
  mergedParameters_of_identities (fun d hd => (hshared d hd).exists_identity)
    fun d hd => (hown d hd).exists_identity

/-- The link of an operation depends on the shared declarations through the merged ones. -/
theorem link_congr {document : Entries} {op : Operation} {shared : Value}
    (h : mergedParameters op.shared (orEmpty (Entries.get op.body "parameters"))
      = mergedParameters shared (orEmpty (Entries.get op.body "parameters"))) :
    op.link document = { op with shared := shared }.link document := by
  have hmerged : op.withParameters = { op with shared := shared }.withParameters := by
    simp only [withParameters, h]
  simp only [link, hmerged, pathText]

theorem IsRegular.of_kept {same : Value → Value → Bool} {shared own : List Value}
    (h : ∀ d ∈ shared, IsRegular d) : ∀ d ∈ kept same shared own, IsRegular d :=
  fun d hd => h d (List.mem_filter.1 hd).1

/-- **Overridden declarations leave no trace.** Of the declarations that the operations of a path
share, those that the operation writes alike have no part in its link: the link is the one without
them. When it writes its own declarations of shared parameters alike, these are all that it declares
itself. -/
theorem link_without_overridden {document : Entries} {op : Operation} {shared own : List Value}
    (hop : op.shared = .list shared)
    (hbody : orEmpty (Entries.get op.body "parameters") = .list own)
    (hshared : ∀ d ∈ shared, IsRegular d) (hown : ∀ d ∈ own, IsRegular d) :
    op.link document = { op with shared := .list (kept writtenAlike shared own) }.link document ∧
      ((∀ d ∈ shared, ∀ o ∈ own, sameParameter d o = true → writtenAlike d o = true) →
        op.link document
          = { op with shared := .list (kept sameParameter shared own) }.link document) := by
  have hlink : op.link document
      = { op with shared := .list (kept writtenAlike shared own) }.link document := by
    refine link_congr ?_
    rw [hop, hbody, mergedParameters_eq hshared hown,
      mergedParameters_eq (IsRegular.of_kept hshared) hown, kept_kept]
  refine ⟨hlink, fun halike => ?_⟩
  have hkept : kept writtenAlike shared own = kept sameParameter shared own := by
    refine List.filter_congr fun d hd => congrArg not (Bool.eq_iff_iff.2 ?_)
    rw [List.any_eq_true, List.any_eq_true]
    constructor
    · rintro ⟨o, ho, hwritten⟩
      exact ⟨o, ho, sameParameter_of_writtenAlike (hshared d hd) (hown o ho) hwritten⟩
    · rintro ⟨o, ho, hsame⟩
      exact ⟨o, ho, halike d hd o ho hsame⟩
  rw [← hkept]
  exact hlink

/-- An operation that declares a shared parameter itself, with its location written alike. -/
def namedOperation : Operation where
  path := .text "/pets"
  method := "GET"
  shared := .list [.object [("name", .text "limit"), ("in", .text "query"),
    ("required", .bool true)]]
  body := [(.text "parameters", .list [.object [("name", .text "limit"), ("in", .text "query")]])]

theorem namedOperation_without_overridden :
    namedOperation.link [] = { namedOperation with shared := .list [] }.link [] := by
  have hshared : IsRegular (.object [("name", .text "limit"), ("in", .text "query"),
      ("required", .bool true)]) := ⟨_, .text "limit", .query, rfl, rfl, rfl⟩
  have hown : IsRegular (.object [("name", .text "limit"), ("in", .text "query")]) :=
    ⟨_, .text "limit", .query, rfl, rfl, rfl⟩
  exact (@link_without_overridden [] namedOperation [_] [_] rfl rfl
    (List.forall_mem_singleton.2 hshared) (List.forall_mem_singleton.2 hown)).2
    (by decide +kernel)

/-- The same operation, the location of the shared declaration left out. -/
def unlocatedOperation : Operation :=
  { namedOperation with
    shared := .list [.object [("name", .text "limit"), ("required", .bool true)]] }

/-- A location that is left out is the query, and yet the shared declaration is not overridden: it
makes the parameter a required one. -/
theorem unlocatedOperation_not_overridden :
    sameParameter (.object [("name", .text "limit"), ("required", .bool true)])
        (.object [("name", .text "limit"), ("in", .text "query")]) = true ∧
      unlocatedOperation.link [] ≠ { unlocatedOperation with shared := .list [] }.link [] := by
  refine ⟨by decide +kernel, fun h => ?_⟩
  have hrequired := congrArg
    (fun link => link.toOption.map fun l => l.shape.schema?.map fun s => s.data) h
  revert hrequired
  decide +kernel

end ApiRouter.Operation

import ApiRouter.Proofs.Compilation
import ApiRouter.Proofs.Declarations

set_option autoImplicit false

/-! # What the fields of a link say about the declarations

The fields of a link that tell what requests have to carry are computed by separate passes over the
declarations of its operation: two of them merge declarations into schemas, two look for a
declaration of a kind. Here is what each of them comes to, and that they agree. -/

namespace ApiRouter

namespace Parameter

/-- The name of a declaration, read as a text. -/
def nameOf? : Value → Option String
  | .map d =>
    match Entries.get d "name" with
    | .scalar k => k.asText?
    | _ => none
  | _ => none

/-- Whether a declaration becomes a property of the request's parameters. -/
def isProperty (declaration : Value) : Bool :=
  Operation.isIn .path declaration || Operation.isIn .query declaration ||
    Operation.isIn .form declaration

/-! ## Passes that merge -/

namespace Merged

variable {m m' : Merged} {ds : List Value}

/-- A pass turns the declarations of some kind into properties, and leaves the properties alone at
all others. -/
def Collects (add : Merged → Value → Except Failure Merged) (p : Value → Bool) : Prop :=
  ∀ m d m', add m d = .ok m' →
    (p d = true → ∃ e k data, d = .map e ∧ Entries.get e "name" = .scalar k ∧
      m'.properties = Ordered.insert m.properties k data) ∧
    (p d = false → m'.properties = m.properties)

theorem collects_addToRequest : Collects addToRequest isProperty := by
  intro m d m' h
  cases d with
  | map e =>
      have hadds : m.addProperty e = .ok m' → ∃ k data, Entries.get e "name" = .scalar k ∧
          m'.properties = Ordered.insert m.properties k data := by
        intro hadd
        obtain ⟨s, k, -, hname, hput, -⟩ := addProperty_eq_ok hadd
        exact ⟨k, s.data, hname, hput⟩
      cases hl : locationOf e with
      | none =>
          simp only [addToRequest, hl] at h
          cases h
          simp [isProperty, Operation.isIn, hl]
      | some location =>
          simp only [addToRequest, hl] at h
          cases location with
          | path | query | form =>
              obtain ⟨k, data, hname, hput⟩ := hadds h
              exact ⟨fun _ => ⟨e, k, data, rfl, hname, hput⟩,
                by simp [isProperty, Operation.isIn, hl]⟩
          | header | body =>
              cases h
              simp [isProperty, Operation.isIn, hl]
  | _ => cases h

theorem collects_addToHeaders : Collects addToHeaders (Operation.isIn .header) := by
  intro m d m' h
  cases d with
  | map e =>
      simp only [addToHeaders] at h
      simp only [Operation.isIn]
      by_cases hl : locationOf e = some .header
      · rw [if_pos hl] at h
        obtain ⟨s, k, -, hname, hput, -⟩ := addProperty_eq_ok h
        exact ⟨fun _ => ⟨e, k, s.data, rfl, hname, hput⟩, by simp [hl]⟩
      · rw [if_neg hl] at h
        cases h
        exact ⟨by simp [hl], fun _ => rfl⟩
  | _ => cases h

variable {add : Merged → Value → Except Failure Merged} {p : Value → Bool}

/-- A pass keeps every key that there is. -/
theorem Collects.keys_subset (hadd : Collects add p) (h : ds.foldlM add m = .ok m') :
    Ordered.keys m.properties ⊆ Ordered.keys m'.properties := by
  refine Outcome.foldlM_invariant
    (fun m' => Ordered.keys m.properties ⊆ Ordered.keys m'.properties) ?_ (List.Subset.refl _) h
  intro m₁ d m₂ _ hm hstep
  obtain ⟨hproperty, hother⟩ := hadd m₁ d m₂ hstep
  cases hd : p d with
  | true =>
      obtain ⟨e, k, data, -, -, hput⟩ := hproperty hd
      rw [hput, Ordered.keys_insert]
      split
      · exact hm
      · exact List.Subset.trans hm (List.subset_append_left ..)
  | false =>
      rw [hother hd]
      exact hm

/-- When all keys read as texts, they are the names of the declarations that were merged, in the
    order in which these come first. -/
theorem Collects.names (hadd : Collects add p) (h : ds.foldlM add m = .ok m')
    (hread : ∀ k ∈ Ordered.keys m'.properties, k.asText? ≠ none) :
    ((Ordered.keys m'.properties).map Scalar.asText?).eraseDups
      = ((Ordered.keys m.properties).map Scalar.asText?
          ++ (ds.filter p).map nameOf?).eraseDups := by
  induction ds generalizing m with
  | nil =>
      cases h
      simp
  | cons d rest ih =>
      rw [List.foldlM_cons] at h
      obtain ⟨m₁, hstep, hrest⟩ := Outcome.bind_eq_ok.1 h
      rw [ih hrest]
      obtain ⟨hproperty, hother⟩ := hadd m d m₁ hstep
      cases hd : p d with
      | false => rw [hother hd, List.filter_cons_of_neg (by simp [hd])]
      | true =>
          obtain ⟨e, k, data, rfl, hname, hput⟩ := hproperty hd
          have hnameOf : nameOf? (.map e) = k.asText? := by simp [nameOf?, hname]
          rw [List.filter_cons_of_pos hd, List.map_cons, hnameOf, hput, Ordered.keys_insert]
          split
          · next hhas =>
              -- the name is there already, so it is not a new one
              obtain ⟨l, hl, hbeq⟩ := Ordered.has_eq_true.1 hhas
              have hl' : l ∈ Ordered.keys m'.properties := by
                have hsub := hadd.keys_subset hrest
                rw [hput, Ordered.keys_insert, if_pos hhas] at hsub
                exact hsub hl
              have heq := ((Scalar.rigid_of_asText? (hread l hl')).beq_right k).1 hbeq
              rw [eraseDups_append_cons_of_mem (List.mem_map.2 ⟨l, hl, by rw [heq]⟩)]
          · rw [List.map_append, List.map_singleton, List.append_assoc, List.singleton_append]

/-- After the pass over all declarations there is a body when one of them is of a body. -/
theorem isSome_body_foldlM (h : ds.foldlM addToRequest m = .ok m') :
    m'.body.isSome = (m.body.isSome || ds.any (Operation.isIn .body)) := by
  induction ds generalizing m with
  | nil =>
      cases h
      simp
  | cons d rest ih =>
      rw [List.foldlM_cons] at h
      obtain ⟨m₁, hstep, hrest⟩ := Outcome.bind_eq_ok.1 h
      rw [ih hrest, List.any_cons, ← Bool.or_assoc]
      congr 1
      cases hd : Operation.isIn .body d with
      | false => rw [body_addToRequest hd hstep, Bool.or_false]
      | true =>
          cases d with
          | map e =>
              have hl : locationOf e = some .body := by simpa [Operation.isIn] using hd
              simp only [addToRequest, hl] at hstep
              cases hstep
              simp
          | _ => cases hstep

/-- The property names of the schema that was merged. -/
theorem objectSchema_names {s : Schema} (h : m.objectSchema = .ok s) :
    (s.properties.map fun p => some p.1)
        = ((Ordered.keys m.properties).map Scalar.asText?).eraseDups ∧
      ∀ k ∈ Ordered.keys m.properties, k.asText? ≠ none := by
  have hmirrors := Schema.mirrors_of_ofEntries h
  have hmappings : Schema.mappingsOf (Schema.propertyEntries m.objectPayload) = m.properties := by
    rw [Schema.propertyEntries, m.find?_properties_objectPayload, Schema.mappingsOf_maps]
  have hread := hmirrors.names
  rw [hmappings] at hread
  refine ⟨?_, hread⟩
  have hkeys : Ordered.keys s.properties = (Ordered.keys (Entries.textRows m.properties)).eraseDups := by
    rw [← keys_ofList, ← hmappings]
    exact (Ordered.keys_eq_of_forall₂ (R := fun sub t => Schema.ofEntries sub = .ok t)
      hmirrors.properties).symm
  have hlist : (s.properties.map fun p => some p.1) = (Ordered.keys s.properties).map some := by
    simp [Ordered.keys]
  rw [hlist, hkeys, ← Entries.keys_textRows hread, eraseDups_map fun _ _ => Option.some.inj]

end Merged

end Parameter

/-! ## The fields of a link -/

/-- What the fields of a link say about the declarations that it is compiled from. -/
structure Link.WellFormed (declared : List Value) (link : Link) : Prop where
  /-- There is a schema for parameters unless a body is declared. -/
  schema : link.shape.schema? = none ↔ ∃ d ∈ declared, Operation.isIn .body d = true
  /-- There is no schema for parameters beside a payload for the body. -/
  exclusive : link.shape.schema? = none ∨ link.shape.payload = .null
  bodyRequired : link.bodyRequired = true ↔
    ∃ d ∈ declared, Operation.isIn .body d = true ∧ Operation.isRequired d = true
  /-- Where a body is required there is no schema for parameters. -/
  noSchema : link.bodyRequired = true → link.shape.schema? = none
  headerSchema : link.headerSchema.isSome = true ↔ ∃ d ∈ declared, Operation.isIn .header d = true
  /-- The properties of the headers are the declared ones, in the order of their first use. -/
  headerNames : ∀ s, link.headerSchema = some s → (s.properties.map fun p => some p.1)
    = ((declared.filter (Operation.isIn .header)).map Parameter.nameOf?).eraseDups
  /-- The properties of the parameters are the declared ones, in the order of their first use. -/
  names : ∀ s, link.shape.schema? = some s → (s.properties.map fun p => some p.1)
    = ((declared.filter Parameter.isProperty).map Parameter.nameOf?).eraseDups

namespace Parameter

variable {op : Entries} {ds : List Value}

theorem exists_merged_of_requestShape {shape : RequestShape} {s : Schema}
    (h : requestShape (.map op) = .ok shape) (hget : Entries.get op "parameters" = .list ds)
    (hs : shape.schema? = some s) :
    ∃ m, ds.foldlM Merged.addToRequest .empty = .ok m ∧ m.objectSchema = .ok s := by
  obtain ⟨declared, hdeclared, h⟩ := Outcome.bind_eq_ok.1 h
  rw [declarations_eq hdeclared hget] at h
  obtain ⟨m, hm, h⟩ := Outcome.bind_eq_ok.1 h
  refine ⟨m, hm, ?_⟩
  cases hb : m.body with
  | some payload =>
      rw [hb] at h
      simp only at h
      split at h
      · cases h
        cases hs
      · cases h
  | none =>
      rw [hb] at h
      obtain ⟨s', hs', rfl⟩ := Outcome.map_eq_ok.1 h
      cases hs
      exact hs'

theorem exists_merged_of_headerSchema {s : Schema} (h : headerSchema (.map op) = .ok s)
    (hget : Entries.get op "parameters" = .list ds) :
    ∃ m, ds.foldlM Merged.addToHeaders .empty = .ok m ∧ m.objectSchema = .ok s := by
  obtain ⟨declared, hdeclared, h⟩ := Outcome.bind_eq_ok.1 h
  rw [declarations_eq hdeclared hget] at h
  exact Outcome.bind_eq_ok.1 h

/-- The schema of the request is merged from the declarations outside the headers, and there is one
unless one of them is of a body. -/
theorem requestShape_names {shape : RequestShape} (h : requestShape (.map op) = .ok shape)
    (hget : Entries.get op "parameters" = .list ds) :
    (shape.schema? = none ↔ ds.any (Operation.isIn .body) = true) ∧
      ∀ s, shape.schema? = some s →
        (s.properties.map fun p => some p.1) = ((ds.filter isProperty).map nameOf?).eraseDups := by
  constructor
  · obtain ⟨declared, hdeclared, h⟩ := Outcome.bind_eq_ok.1 h
    rw [declarations_eq hdeclared hget] at h
    obtain ⟨m, hm, h⟩ := Outcome.bind_eq_ok.1 h
    have hbody : m.body.isSome = ds.any (Operation.isIn .body) := by
      rw [Merged.isSome_body_foldlM hm]
      rfl
    cases hb : m.body with
    | some payload =>
        rw [hb] at h hbody
        simp only at h
        split at h
        · cases h
          simpa [RequestShape.schema?] using hbody
        · cases h
    | none =>
        rw [hb] at h hbody
        obtain ⟨s, hs, rfl⟩ := Outcome.map_eq_ok.1 h
        simpa [RequestShape.schema?] using hbody
  · intro s hs
    obtain ⟨m, hm, hschema⟩ := exists_merged_of_requestShape h hget hs
    obtain ⟨hnames, hread⟩ := Merged.objectSchema_names hschema
    rw [hnames, Merged.collects_addToRequest.names hm hread]
    rfl

/-- The schema of the headers is merged from the declarations of headers. -/
theorem headerSchema_names {s : Schema} (h : headerSchema (.map op) = .ok s)
    (hget : Entries.get op "parameters" = .list ds) :
    (s.properties.map fun p => some p.1)
      = ((ds.filter (Operation.isIn .header)).map nameOf?).eraseDups := by
  obtain ⟨m, hm, hschema⟩ := exists_merged_of_headerSchema h hget
  obtain ⟨hnames, hread⟩ := Merged.objectSchema_names hschema
  rw [hnames, Merged.collects_addToHeaders.names hm hread]
  rfl

end Parameter

/-- The link of an operation is well-formed. -/
theorem Operation.HasLink.wellFormed {document : Entries} {op : Operation} {declared : List Value}
    {link : Link} (h : HasLink document op declared link) : link.WellFormed declared := by
  have hget := op.get_declaring declared
  obtain ⟨hschema, hnames⟩ := Parameter.requestShape_names h.shape hget
  have hbody : link.bodyRequired = true ↔
      ∃ d ∈ declared, isIn .body d = true ∧ isRequired d = true := by
    rw [h.bodyRequired]
    simp
  have hheader := h.headerSchema
  refine ⟨by rw [hschema]; simp, ?_, hbody, fun hrequired => ?_, ?_, fun s hs => ?_, hnames⟩
  · cases link.shape with
    | parameters s => exact .inr rfl
    | body payload => exact .inl rfl
  · obtain ⟨d, hd, hin, -⟩ := hbody.1 hrequired
    exact hschema.2 (List.any_eq_true.2 ⟨d, hd, hin⟩)
  · split at hheader
    · next hany =>
        obtain ⟨s, -, hs⟩ := Outcome.map_eq_ok.1 hheader
        rw [← hs]
        simpa using hany
    · next hany =>
        rw [← Except.ok.inj hheader]
        simpa using hany
  · rw [hs] at hheader
    split at hheader
    · obtain ⟨s', hs', heq⟩ := Outcome.map_eq_ok.1 hheader
      cases heq
      exact Parameter.headerSchema_names hs' hget
    · cases hheader

end ApiRouter

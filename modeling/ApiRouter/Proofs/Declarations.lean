import ApiRouter.Operation
import ApiRouter.Proofs.SchemaReading

set_option autoImplicit false

/-! # How declarations become a schema

Declarations are merged one by one. What the merged ones hold under a name is the payload of the
last declaration of that name. -/

namespace ApiRouter

namespace Parameter

/-! ## The payload of one declaration -/

/-- The keywords that the payload of a declaration may have, in their order. -/
def keywords : List String := "type" :: "enum" :: constraintKeywords

/-- What the payload of a declaration has for a keyword, given what it has for the enumeration. -/
def translated (d : Entries) (enum : Option Value) (keyword : String) : Option Value :=
  if keyword = "type" then (Entries.find? d "type").map fun t => .list [t]
  else if keyword = "enum" then enum
  else Entries.find? d keyword

/-- The constraints besides the type and the enumeration are copied. -/
theorem translated_of_mem {k : String} (hk : k ∈ constraintKeywords) (d : Entries)
    (enum : Option Value) : translated d enum k = Entries.find? d k := by
  have htype : k ≠ "type" := by
    rintro rfl
    exact absurd hk (by decide)
  have henum : k ≠ "enum" := by
    rintro rfl
    exact absurd hk (by decide)
  rw [translated, if_neg htype, if_neg henum]

theorem payload_eq_rowsOf {d p : Entries} (h : payload d = .ok p) :
    ∃ enum, p = Entries.rowsOf (translated d enum) keywords ∧
      enum.isSome = Entries.has d "enum" ∧
      ∀ v, Entries.find? d "enum" = some v →
        ∃ parts, Schema.partsOf v = .ok parts ∧ enum = some (.list parts) := by
  have hrows (enum : Option Value) : Entries.rowsOf (translated d enum) keywords
      = ((Entries.find? d "type").map fun t => (Scalar.text "type", Value.list [t])).toList
        ++ (enum.map fun v => (Scalar.text "enum", v)).toList
        ++ constraintKeywords.filterMap fun k =>
          (Entries.find? d k).map fun v => (Scalar.text k, v) := by
    have hothers : Entries.rowsOf (translated d enum) constraintKeywords
        = constraintKeywords.filterMap fun k =>
          (Entries.find? d k).map fun v => (Scalar.text k, v) :=
      List.filterMap_congr fun k hk => by rw [translated_of_mem hk]
    have htype : translated d enum "type" = (Entries.find? d "type").map fun t => .list [t] := rfl
    have henum : translated d enum "enum" = enum := rfl
    rw [keywords, Entries.rowsOf_cons, Entries.rowsOf_cons, htype, henum, hothers, Option.map_map,
      List.append_assoc]
    rfl
  unfold payload at h
  extract_lets types at h
  have htypes : types
      = ((Entries.find? d "type").map fun t => (Scalar.text "type", Value.list [t])).toList := by
    unfold types
    cases Entries.find? d "type" with
    | none => rfl
    | some t => rfl
  rw [Entries.has_eq_isSome]
  cases hv : Entries.find? d "enum" with
  | none =>
      rw [hv] at h
      cases h
      refine ⟨none, ?_, rfl, fun v hv => by cases hv⟩
      rw [hrows, htypes]
      rfl
  | some v =>
      rw [hv] at h
      obtain ⟨enum, henum, h⟩ := Outcome.bind_eq_ok.1 h
      obtain ⟨parts, hparts, rfl⟩ := Outcome.map_eq_ok.1 henum
      cases h
      refine ⟨some (.list parts), ?_, rfl, ?_⟩
      · rw [hrows, htypes]
        rfl
      · rintro v ⟨⟩
        exact ⟨parts, hparts, rfl⟩

/-- The payload has only keywords that the declaration has. -/
theorem key_of_mem_payload {declaration p : Entries} (h : payload declaration = .ok p)
    {e : Scalar × Value} (he : e ∈ p) :
    ∃ k ∈ keywords, e.1 = .text k ∧ Entries.find? declaration k ≠ none := by
  obtain ⟨enum, rfl, hsome, -⟩ := payload_eq_rowsOf h
  obtain ⟨k, hk, hrow⟩ := List.mem_filterMap.1 he
  obtain ⟨v, hv, rfl⟩ := Option.map_eq_some_iff.1 hrow
  refine ⟨k, hk, rfl, ?_⟩
  rw [← Option.isSome_iff_ne_none]
  rw [translated] at hv
  split at hv
  · next htype =>
      obtain ⟨t, ht, -⟩ := Option.map_eq_some_iff.1 hv
      rw [htype, ht]
      rfl
  · split at hv
    · next henum => rw [henum, ← Entries.has_eq_isSome, ← hsome, hv]; rfl
    · rw [hv]
      rfl

/-- The keywords of a payload are different texts. -/
theorem hasTextKeys_payload {declaration p : Entries} (h : payload declaration = .ok p) :
    Entries.HasTextKeys p := by
  obtain ⟨enum, rfl, -, -⟩ := payload_eq_rowsOf h
  have hkeywords : keywords.Nodup := by decide
  constructor
  · intro k hk
    rw [Entries.keys_rowsOf] at hk
    obtain ⟨t, -, rfl⟩ := List.mem_map.1 hk
    exact ⟨t, rfl⟩
  · rw [Entries.keys_rowsOf]
    exact (hkeywords.filter _).map fun _ _ => Scalar.text.inj

/-- The schema of a declaration keeps the payload as it stands. -/
theorem schemaOf_eq_ok {declaration : Entries} {s : Schema} (h : schemaOf declaration = .ok s) :
    payload declaration = .ok s.data := by
  obtain ⟨p, hp, hs⟩ := Outcome.bind_eq_ok.1 h
  rw [(Schema.mirrors_of_ofEntries hs).verbatim (hasTextKeys_payload hp), hp]

/-! ## Merging declarations -/

/-- A declaration of a parameter with the given name. -/
def Declares (name : String) (declaration : Value) : Prop :=
  ∃ d, declaration = .map d ∧ Entries.get d "name" = .text name ∧
    (locationOf d = some .path ∨ locationOf d = some .query ∨ locationOf d = some .form)

namespace Merged

variable {m m' : Merged} {name : String}

theorem addProperty_eq_ok {d : Entries} (h : m.addProperty d = .ok m') :
    ∃ s key, schemaOf d = .ok s ∧ Entries.get d "name" = .scalar key ∧
      m'.properties = Ordered.insert m.properties key s.data ∧ m'.body = m.body := by
  unfold addProperty at h
  obtain ⟨s, hs, h⟩ := Outcome.bind_eq_ok.1 h
  obtain ⟨key, hkey, h⟩ := Outcome.bind_eq_ok.1 h
  cases h
  refine ⟨s, key, hs, ?_, rfl, rfl⟩
  unfold nameKey at hkey
  split at hkey
  · next k hk =>
      cases hkey
      exact hk
  · cases hkey

/-- The last declaration of a name is the one that counts. -/
theorem find?_of_declares {declaration : Value} (hd : Declares name declaration)
    (h : m.addToRequest declaration = .ok m') :
    ∃ d s, declaration = .map d ∧ schemaOf d = .ok s ∧
      Ordered.find? m'.properties (.text name) = some s.data := by
  obtain ⟨d, rfl, hname, hlocation⟩ := hd
  have hadd : m.addProperty d = .ok m' := by
    unfold addToRequest at h
    rcases hlocation with hl | hl | hl
    · simpa only [hl] using h
    · simpa only [hl] using h
    · simpa only [hl] using h
  obtain ⟨s, key, hs, hkey, hprops, -⟩ := addProperty_eq_ok hadd
  rw [hname] at hkey
  cases hkey
  refine ⟨d, s, rfl, hs, ?_⟩
  rw [hprops, Ordered.find?_insert (Scalar.rigid_text name),
    if_pos ((Scalar.rigid_text name).beq_left _ |>.2 rfl)]

/-- Other declarations leave what there is under a name. -/
theorem find?_of_not_declares {declaration : Value} (hd : ¬ Declares name declaration)
    (h : m.addToRequest declaration = .ok m') :
    Ordered.find? m'.properties (.text name) = Ordered.find? m.properties (.text name) := by
  cases declaration with
  | map d =>
      have hother : m.addProperty d = .ok m' →
          (locationOf d = some .path ∨ locationOf d = some .query ∨ locationOf d = some .form) →
          Ordered.find? m'.properties (.text name) = Ordered.find? m.properties (.text name) := by
        intro hadd hlocation
        obtain ⟨s, key, -, hkey, hprops, -⟩ := addProperty_eq_ok hadd
        have hne : ¬ key = .text name := fun he => hd ⟨d, rfl, by rw [hkey, he], hlocation⟩
        rw [hprops, Ordered.find?_insert (Scalar.rigid_text name),
          if_neg fun hb => hne ((Scalar.rigid_text name).beq_left _ |>.1 hb)]
      unfold addToRequest at h
      simp only at h
      split at h
      · cases h
        rfl
      · cases h
        rfl
      · cases h
        rfl
      · next hl => exact hother h (.inl hl)
      · next hl => exact hother h (.inr (.inl hl))
      · next hl => exact hother h (.inr (.inr hl))
  | _ => cases h

/-- Without a body declaration no body is asked for. -/
theorem body_addToRequest {declaration : Value} (hd : Operation.isIn .body declaration = false)
    (h : m.addToRequest declaration = .ok m') : m'.body = m.body := by
  cases declaration with
  | map d =>
      unfold addToRequest at h
      simp only at h
      split at h
      · cases h
        rfl
      · cases h
        rfl
      · next hl => simp [Operation.isIn, hl] at hd
      · exact (addProperty_eq_ok h).choose_spec.choose_spec.2.2.2
      · exact (addProperty_eq_ok h).choose_spec.choose_spec.2.2.2
      · exact (addProperty_eq_ok h).choose_spec.choose_spec.2.2.2
  | _ => cases h

/-! ## The payload of the object schema -/

theorem mem_objectPayload {e : Scalar × Value} (h : e ∈ m.objectPayload) :
    e = (.text "type", .texts ["object"]) ∨
      e = (.text "properties", .map (m.properties.map fun p => (p.1, .map p.2))) ∨
      e = (.text "required", .list m.required) := by
  rcases List.mem_append.1 h with h | h
  · rcases List.mem_cons.1 h with rfl | h
    · exact .inl rfl
    · exact .inr (.inl (List.mem_singleton.1 h))
  · split at h
    · cases h
    · exact .inr (.inr (List.mem_singleton.1 h))

/-- The payload has no other keywords. -/
theorem find?_objectPayload_eq_none (m : Merged) {k : String}
    (h : k ≠ "type" ∧ k ≠ "properties" ∧ k ≠ "required") :
    Entries.find? m.objectPayload k = none := by
  rw [Option.eq_none_iff_forall_ne_some]
  intro v hv
  rcases mem_objectPayload (Ordered.mem_of_find? (Scalar.rigid_text k) hv) with he | he | he
  · exact h.1 (Scalar.text.inj (congrArg Prod.fst he))
  · exact h.2.1 (Scalar.text.inj (congrArg Prod.fst he))
  · exact h.2.2 (Scalar.text.inj (congrArg Prod.fst he))

theorem hasTextKeys_objectPayload (m : Merged) : Entries.HasTextKeys m.objectPayload := by
  rw [objectPayload]
  split
  · exact ⟨by simp [Ordered.keys], by simp [Ordered.keys]⟩
  · exact ⟨by simp [Ordered.keys], by simp [Ordered.keys]⟩

theorem find?_properties_objectPayload (m : Merged) :
    Entries.find? m.objectPayload "properties"
      = some (.map (m.properties.map fun p => (p.1, .map p.2))) := by
  unfold objectPayload
  split
  · rfl
  · rfl

/-! ## Merging a whole list -/

/-- Under a name there is the payload of its last declaration. -/
theorem find?_foldlM {before after : List Value} {declaration : Value}
    (h : (before ++ declaration :: after).foldlM addToRequest m = .ok m')
    (hd : Declares name declaration) (hlast : ∀ e ∈ after, ¬ Declares name e) :
    ∃ d s, declaration = .map d ∧ schemaOf d = .ok s ∧
      Ordered.find? m'.properties (.text name) = some s.data := by
  rw [List.foldlM_append] at h
  obtain ⟨m₁, -, h⟩ := Outcome.bind_eq_ok.1 h
  rw [List.foldlM_cons] at h
  obtain ⟨m₂, hstep, h⟩ := Outcome.bind_eq_ok.1 h
  obtain ⟨d, s, hdecl, hs, hfound⟩ := find?_of_declares hd hstep
  refine ⟨d, s, hdecl, hs, ?_⟩
  exact Outcome.foldlM_invariant
    (fun m => Ordered.find? m.properties (.text name) = some s.data)
    (fun m e m' he hm hadd => (find?_of_not_declares (hlast e he) hadd).trans hm) hfound h

theorem body_foldlM {ds : List Value} (hds : ds.any (Operation.isIn .body) = false)
    (h : ds.foldlM addToRequest m = .ok m') : m'.body = m.body := by
  refine Outcome.foldlM_invariant (fun m' => m'.body = m.body) ?_ rfl h
  intro m₁ e m₂ he hm hadd
  have hbody : Operation.isIn .body e = false := by
    simpa using List.any_eq_false.1 hds e he
  exact (body_addToRequest hbody hadd).trans hm

end Merged

/-- The declarations of an operation are the ones that it lists. -/
theorem declarations_eq {op : Entries} {declared ds : List Value}
    (h : declarations (.map op) = .ok declared) (hget : Entries.get op "parameters" = .list ds) :
    declared = ds := by
  simp only [declarations, hget] at h
  split at h
  · obtain ⟨listed, hlisted, h⟩ := Outcome.bind_eq_ok.1 h
    obtain ⟨-, -, h⟩ := Outcome.bind_eq_ok.1 h
    cases hlisted
    cases h
    rfl
  · next hfalsy =>
      obtain ⟨-, -, h⟩ := Outcome.bind_eq_ok.1 h
      cases h
      simpa [Value.truthy] using hfalsy

/-- Without a body declaration a request carries parameters, of the schema that is merged from all
    declarations. -/
theorem requestShape_eq_ok {op : Entries} {ds : List Value} {shape : RequestShape}
    (h : requestShape (.map op) = .ok shape) (hget : Entries.get op "parameters" = .list ds)
    (hbody : ds.any (Operation.isIn .body) = false) :
    ∃ m schema, ds.foldlM Merged.addToRequest Merged.empty = .ok m ∧
      shape = .parameters schema ∧ schema.data = m.objectPayload := by
  obtain ⟨declared, hdeclared, h⟩ := Outcome.bind_eq_ok.1 h
  rw [declarations_eq hdeclared hget] at h
  obtain ⟨m, hm, h⟩ := Outcome.bind_eq_ok.1 h
  have hnone : m.body = none := Merged.body_foldlM hbody hm
  rw [hnone] at h
  obtain ⟨schema, hschema, rfl⟩ := Outcome.map_eq_ok.1 h
  exact ⟨m, schema, hm, rfl,
    (Schema.mirrors_of_ofEntries hschema).verbatim m.hasTextKeys_objectPayload⟩

end Parameter

end ApiRouter

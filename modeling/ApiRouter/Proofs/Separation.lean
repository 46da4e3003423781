import ApiRouter.Proofs.RequestShape

set_option autoImplicit false

/-! # Locations that do not interfere

Two passes go over the declarations of an operation, one for the request and one for its headers.
A declaration that a pass does not collect leaves no trace in it: the pass comes to the same result, or
to the same failure, when such declarations are put in or taken out anywhere. No declaration is collected
by both. -/

namespace ApiRouter.Parameter

/-- Whether a declaration is one of a header. -/
def isHeader (d : Entries) : Bool :=
  locationOf d == some .header

/-- Whether a declaration says something about the request apart from its headers. -/
def isCarried (d : Entries) : Bool :=
  isParameter d || isBody d

/-- Headers and unknown locations are all that the request does not carry. -/
theorem isCarried_eq_false {d : Entries} :
    isCarried d = false ↔ locationOf d = some .header ∨ locationOf d = none := by
  rw [isCarried, isParameter, isBody]
  cases locationOf d with
  | none => simp
  | some location =>
      cases location with
      | _ => simp

theorem isCarried_of_isHeader {d : Entries} (h : isHeader d = true) : isCarried d = false :=
  isCarried_eq_false.2 (.inl (beq_iff_eq.1 h))

namespace Merged

/-- All locations but headers leave no trace among the headers. -/
theorem addToHeaders_of_not_isHeader {m : Merged} {d : Entries} (h : isHeader d = false) :
    m.addToHeaders (.map d) = .ok m := by
  rw [addToHeaders, if_neg (beq_eq_false_iff_ne.1 h)]

/-- The request is merged from what it carries. -/
theorem foldlM_addToRequest_filter (ds : List Entries) (m : Merged) :
    ((ds.filter isCarried).map Value.map).foldlM addToRequest m
      = (ds.map Value.map).foldlM addToRequest m := by
  rw [List.foldlM_map, List.foldlM_map]
  refine Outcome.foldlM_filter (fun m d hd => ?_) ds m
  rw [isCarried, Bool.or_eq_false_iff] at hd
  exact addToRequest_of_other hd.1 hd.2

/-- The headers are merged from the declarations of headers. -/
theorem foldlM_addToHeaders_filter (ds : List Entries) (m : Merged) :
    ((ds.filter isHeader).map Value.map).foldlM addToHeaders m
      = (ds.map Value.map).foldlM addToHeaders m := by
  rw [List.foldlM_map, List.foldlM_map]
  refine Outcome.foldlM_filter (fun m d hd => ?_) ds m
  exact addToHeaders_of_not_isHeader hd

end Merged

section Outcomes

variable {op op' : Entries} {ds es : List Entries}

theorem requestShape_of_filter_eq (hget : Entries.get op "parameters" = .list (ds.map .map))
    (hget' : Entries.get op' "parameters" = .list (es.map .map))
    (hds : ∀ d ∈ ds, Entries.has d "name" = true) (hes : ∀ e ∈ es, Entries.has e "name" = true)
    (h : ds.filter isCarried = es.filter isCarried) :
    requestShape (.map op) = requestShape (.map op') := by
  rw [requestShape, requestShape, declarations_of_named hget hds, declarations_of_named hget' hes,
    Outcome.ok_bind, Outcome.ok_bind, ← Merged.foldlM_addToRequest_filter ds, h,
    Merged.foldlM_addToRequest_filter]

theorem headerSchema_of_filter_eq (hget : Entries.get op "parameters" = .list (ds.map .map))
    (hget' : Entries.get op' "parameters" = .list (es.map .map))
    (hds : ∀ d ∈ ds, Entries.has d "name" = true) (hes : ∀ e ∈ es, Entries.has e "name" = true)
    (h : ds.filter isHeader = es.filter isHeader) :
    headerSchema (.map op) = headerSchema (.map op') := by
  rw [headerSchema, headerSchema, declarations_of_named hget hds, declarations_of_named hget' hes,
    Outcome.ok_bind, Outcome.ok_bind, ← Merged.foldlM_addToHeaders_filter ds, h,
    Merged.foldlM_addToHeaders_filter]

/-- **Locations do not interfere.** Lists of named declarations that differ only in headers and unknown
locations come to the same request, result or failure, and lists that differ only outside the headers
to the same header schema. So headers neither bring about nor hide that a body stands beside parameters,
and a declaration changes one of the two outcomes at most. -/
theorem outcomes_of_filter_eq (hget : Entries.get op "parameters" = .list (ds.map .map))
    (hget' : Entries.get op' "parameters" = .list (es.map .map))
    (hds : ∀ d ∈ ds, Entries.has d "name" = true) (hes : ∀ e ∈ es, Entries.has e "name" = true) :
    (ds.filter isCarried = es.filter isCarried →
        requestShape (.map op) = requestShape (.map op')) ∧
      (ds.filter isHeader = es.filter isHeader →
        headerSchema (.map op) = headerSchema (.map op')) ∧
      (ds.filter (!isHeader ·) = es.filter (!isHeader ·) →
        (requestShape (.map op)
            = fail .incompatibleLocations "can't mix body parameter with form parameters." ↔
          requestShape (.map op')
            = fail .incompatibleLocations "can't mix body parameter with form parameters.")) ∧
      ∀ before d after, ds = before ++ d :: after → es = before ++ after →
        requestShape (.map op) = requestShape (.map op') ∨
          headerSchema (.map op) = headerSchema (.map op') := by
  refine ⟨requestShape_of_filter_eq hget hget' hds hes, headerSchema_of_filter_eq hget hget' hds hes,
    fun h => ?_, ?_⟩
  · have hcarried (l : List Entries) : (l.filter (!isHeader ·)).filter isCarried
        = l.filter isCarried := by
      rw [List.filter_filter]
      refine List.filter_congr fun d _ => ?_
      cases hd : isHeader d with
      | true => rw [isCarried_of_isHeader hd, Bool.false_and]
      | false => rw [Bool.not_false, Bool.and_true]
    rw [requestShape_of_filter_eq hget hget' hds hes (by rw [← hcarried, h, hcarried])]
  · rintro before d after rfl rfl
    cases hd : isHeader d with
    | true =>
        exact .inl (requestShape_of_filter_eq hget hget' hds hes
          (by simp [isCarried_of_isHeader hd]))
    | false => exact .inr (headerSchema_of_filter_eq hget hget' hds hes (by simp [hd]))

end Outcomes

/-- A parameter, a header and a declaration in an unknown location. -/
def scatteredDeclarations : List Entries := [
  [(.text "name", .text "limit"), (.text "type", .text "integer")],
  [(.text "name", .text "X-Tenant"), (.text "in", .text "header"), (.text "required", .bool true)],
  [(.text "name", .text "session"), (.text "in", .text "cookie")]]

/-- An operation with the given declarations. -/
def declaring (ds : List Entries) : Entries :=
  [(.text "parameters", .list (ds.map .map))]

theorem get_declaring (ds : List Entries) :
    Entries.get (declaring ds) "parameters" = .list (ds.map .map) := rfl

theorem outcomes_scattered :
    requestShape (.map (declaring scatteredDeclarations))
        = requestShape (.map (declaring [scatteredDeclarations[0]])) ∧
      headerSchema (.map (declaring scatteredDeclarations))
        = headerSchema (.map (declaring [scatteredDeclarations[1]])) := by
  have hnamed : ∀ d ∈ scatteredDeclarations, Entries.has d "name" = true := by decide +kernel
  obtain ⟨hrequest, -⟩ := outcomes_of_filter_eq (get_declaring scatteredDeclarations)
    (get_declaring [scatteredDeclarations[0]]) hnamed (by decide +kernel)
  obtain ⟨-, hheader, -⟩ := outcomes_of_filter_eq (get_declaring scatteredDeclarations)
    (get_declaring [scatteredDeclarations[1]]) hnamed (by decide +kernel)
  exact ⟨hrequest (by decide +kernel), hheader (by decide +kernel)⟩

end ApiRouter.Parameter

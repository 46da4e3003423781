import ApiRouter.Proofs.Override
import ApiRouter.Proofs.RequestShape

set_option autoImplicit false

/-! # Declarations without a name

A declaration without a name is refused, but only after the shared declarations have been merged with
the operation's own. Merging takes a name that is missing for one that is null: where the operation has
a declaration of its own whose name is null, in a location that is written alike, a shared declaration
without a name is dropped unseen. Merging also compares names and locations before anything is refused,
and fails where these are collections. -/

namespace ApiRouter.Operation

variable {document : Entries} {op : Operation}

/-! ## Merging mappings -/

/-- The name and the location of a declaration can be compared with others. -/
def IsComparable (d : Entries) : Prop :=
  ∃ id, identity (.map d) = .ok id

/-- An own declaration with a null for its name hides a shared one without a name, where both write
their location alike. -/
def Hides (own shared : Entries) : Prop :=
  Entries.find? own "name" = some .null ∧ writtenAlike (.map shared) (.map own) = true

theorem identity_eq_error {d : Entries} {e : Failure} :
    identity (.map d) = .error e ↔ ¬ IsComparable d ∧ e = .defect .wrongType := by
  unfold IsComparable
  simp only [identity]
  split
  · simp
  · simp [defect, eq_comm]

theorem get_of_identity {d : Entries} {id : Scalar × Scalar} (h : identity (.map d) = .ok id) :
    Entries.get d "name" = .scalar id.1 ∧ Entries.get d "in" = .scalar id.2 := by
  simp only [identity] at h
  split at h
  · next name location hname hlocation =>
      cases h
      exact ⟨hname, hlocation⟩
  · cases h

/-- A declaration that cannot be compared ends the merging. -/
theorem mergedParameters_of_not_isComparable {shared own : List Entries}
    (h : ∃ d ∈ shared ++ own, ¬ IsComparable d) :
    mergedParameters (.list (shared.map .map)) (.list (own.map .map)) = defect .wrongType := by
  have hparts (ds : List Value) : Schema.partsOf (.list ds) = .ok ds := rfl
  rw [mergedParameters, hparts, hparts, Outcome.ok_bind, List.mapM_map]
  -- the operation's own declarations come first; only if all of them can be compared, the shared
  -- ones are looked at
  cases hidentities : own.mapM (identity ∘ Value.map) with
  | error e =>
      rw [((Outcome.mapM_eq_error fun _ _ => identity_eq_error).1 hidentities).2]
      rfl
  | ok overridden =>
      have hown : ∀ d ∈ own, IsComparable d := by
        intro d hd
        obtain ⟨id, -, hid⟩ := exists_of_forall₂ (Outcome.mapM_eq_ok.1 hidentities) hd
        exact ⟨id, hid⟩
      have hshared : ∃ d ∈ shared, ¬ IsComparable d := by
        obtain ⟨d, hd, hnot⟩ := h
        rcases List.mem_append.1 hd with hd | hd
        · exact ⟨d, hd, hnot⟩
        · exact absurd (hown d hd) hnot
      have hfail : (shared.map Value.map).filterMapM (fun d => do
          let id ← identity d
          .ok (if overridden.contains id then none else some d)) = defect .wrongType := by
        refine Outcome.filterMapM_eq_error (fun v hv e he => ?_) ?_
        · obtain ⟨d, -, rfl⟩ := List.mem_map.1 hv
          rcases Outcome.bind_eq_error.1 he with he | ⟨id, -, he⟩
          · exact (identity_eq_error.1 he).2
          · cases he
        · obtain ⟨d, hd, hnot⟩ := hshared
          exact ⟨.map d, List.mem_map_of_mem hd, _,
            Outcome.bind_eq_error.2 (.inl (identity_eq_error.2 ⟨hnot, rfl⟩))⟩
      rw [Outcome.ok_bind, Outcome.ok_bind, hfail]
      rfl

/-- The shared declarations that are kept beside the operation's own. -/
def keptMaps (shared own : List Entries) : List Entries :=
  shared.filter fun d => !own.any fun o => writtenAlike (.map d) (.map o)

theorem mergedParameters_maps {shared own : List Entries}
    (h : ∀ d ∈ shared ++ own, IsComparable d) :
    mergedParameters (.list (shared.map .map)) (.list (own.map .map))
      = .ok ((keptMaps shared own ++ own).map .map) := by
  rw [List.forall_mem_append] at h
  have hkept : kept writtenAlike (shared.map .map) (own.map .map) = (keptMaps shared own).map .map := by
    rw [kept, keptMaps, List.filter_map]
    congr 1
    refine List.filter_congr fun d _ => ?_
    simp only [Function.comp_apply, List.any_map]
    rfl
  rw [mergedParameters_of_identities, hkept, List.map_append]
  · intro v hv
    obtain ⟨d, hd, rfl⟩ := List.mem_map.1 hv
    exact h.1 d hd
  · intro v hv
    obtain ⟨d, hd, rfl⟩ := List.mem_map.1 hv
    exact h.2 d hd

/-- Only a declaration whose name is null or missing is written like one without a name. -/
theorem get_name_of_writtenAlike {d o : Entries} (hd : Entries.has d "name" = false)
    (h : writtenAlike (.map d) (.map o) = true) : Entries.get o "name" = .null := by
  have hnull : Entries.get d "name" = .null := by
    rw [Entries.get, Entries.find?_eq_none_of_has hd, Option.getD_none]
  unfold writtenAlike at h
  split at h
  · next id id' hid hid' =>
      obtain ⟨hname, -⟩ := get_of_identity hid
      obtain ⟨hname', -⟩ := get_of_identity hid'
      rw [hname] at hnull
      have hnames := (Bool.and_eq_true_iff.1 h).1
      rw [Value.scalar.inj hnull] at hnames
      rw [hname', (Scalar.rigid_null.beq_right _).1 hnames]
  · cases h

/-- Where the operation's own declarations have names, those that are written like a shared one without
a name hide it. -/
theorem hides_of_writtenAlike {d o : Entries} (hd : Entries.has d "name" = false)
    (ho : Entries.has o "name" = true) (h : writtenAlike (.map d) (.map o) = true) : Hides o d := by
  refine ⟨?_, h⟩
  have hnull := get_name_of_writtenAlike hd h
  rw [Entries.has_eq_isSome] at ho
  obtain ⟨v, hv⟩ := Option.isSome_iff_exists.1 ho
  rw [Entries.get, hv, Option.getD_some] at hnull
  rw [hv, hnull]

/-- A declaration without a name is still there after merging, unless it is a shared one that is
hidden. -/
theorem exists_nameless_of_seen {shared own : List Entries}
    (h : (∃ d ∈ own, Entries.has d "name" = false) ∨
      ∃ d ∈ shared, Entries.has d "name" = false ∧ ∀ o ∈ own, ¬ Hides o d) :
    ∃ d ∈ keptMaps shared own ++ own, Entries.has d "name" = false := by
  by_cases hnamed : ∀ o ∈ own, Entries.has o "name" = true
  · rcases h with ⟨o, ho, hunnamed⟩ | ⟨d, hd, hunnamed, hseen⟩
    · rw [hnamed o ho] at hunnamed
      cases hunnamed
    · -- nothing is written like this declaration, so it is kept
      refine ⟨d, List.mem_append_left _ (List.mem_filter.2 ⟨hd, ?_⟩), hunnamed⟩
      rw [Bool.not_eq_true', List.any_eq_false]
      exact fun o ho halike => hseen o ho (hides_of_writtenAlike hunnamed (hnamed o ho) halike)
  · push Not at hnamed
    obtain ⟨o, ho, hunnamed⟩ := hnamed
    exact ⟨o, List.mem_append_right _ ho, Bool.eq_false_iff.2 hunnamed⟩

/-- Merging keeps as much without the shared declarations that are hidden. -/
theorem keptMaps_of_hidden {shared own : List Entries}
    (h : ∀ d ∈ shared, Entries.has d "name" = false → ∃ o ∈ own, Hides o d) :
    keptMaps shared own = keptMaps (shared.filter (Entries.has · "name")) own := by
  rw [keptMaps, keptMaps, List.filter_filter]
  refine List.filter_congr fun d hd => ?_
  cases hname : Entries.has d "name" with
  | true => rw [Bool.and_true]
  | false =>
      obtain ⟨o, ho, -, halike⟩ := h d hd hname
      rw [List.any_eq_true.2 ⟨o, ho, halike⟩]
      rfl

/-! ## The link -/

theorem shared_of_mem_ofPathItem {path : Scalar} {item : Entries} (h : op ∈ ofPathItem path item) :
    op.shared = orEmpty (Entries.get item "parameters") := by
  obtain ⟨e, -, he⟩ := List.mem_filterMap.1 h
  simp only at he
  split at he
  · split at he
    · cases he
      rfl
    · cases he
  · cases he

theorem link_of_merging_fails {e : Failure}
    (h : mergedParameters op.shared (orEmpty (Entries.get op.body "parameters")) = .error e) :
    op.link document = .error e := by
  rw [link, withParameters, h]
  rfl

theorem link_of_requestShape_fails {declared : List Value} {e : Failure} (h : op.Declares declared)
    (hshape : Parameter.requestShape (.map (op.declaring declared)) = .error e) :
    op.link document = .error e := by
  have hmerged : op.withParameters = .ok (op.declaring declared) :=
    Outcome.bind_eq_ok.2 ⟨declared, h, rfl⟩
  rw [link, hmerged, Outcome.ok_bind, hshape]
  rfl

/-- **What becomes of declarations without a name.** Where all names and locations can be compared, an
operation is refused for a declaration without a name, be it shared or its own. The only exception are
shared ones that are hidden by own declarations with a null for their name: the link is the one without
them. Where something cannot be compared, the operation fails for that. -/
theorem link_of_nameless {path : Scalar} {item : Entries} {shared own : List Entries}
    (hop : op ∈ ofPathItem path item)
    (hshared : orEmpty (Entries.get item "parameters") = .list (shared.map .map))
    (hown : orEmpty (Entries.get op.body "parameters") = .list (own.map .map)) :
    ((∃ d ∈ shared ++ own, ¬ IsComparable d) → op.link document = defect .wrongType) ∧
      ((∀ d ∈ shared ++ own, IsComparable d) →
        ((∃ d ∈ own, Entries.has d "name" = false) ∨
            (∃ d ∈ shared, Entries.has d "name" = false ∧ ∀ o ∈ own, ¬ Hides o d) →
          op.link document = fail .missingParameterName "no name section in link data.") ∧
        ((∀ d ∈ shared, Entries.has d "name" = false → ∃ o ∈ own, Hides o d) →
          op.link document
            = { op with shared := .list ((shared.filter (Entries.has · "name")).map .map) }.link
                document)) := by
  have hlists : mergedParameters op.shared (orEmpty (Entries.get op.body "parameters"))
      = mergedParameters (.list (shared.map .map)) (.list (own.map .map)) := by
    rw [shared_of_mem_ofPathItem hop, hshared, hown]
  refine ⟨fun hnot => ?_, fun hcomparable => ⟨fun hseen => ?_, fun hhidden => ?_⟩⟩
  · refine link_of_merging_fails ?_
    rw [hlists, mergedParameters_of_not_isComparable hnot]
    rfl
  · have hdeclares : op.Declares ((keptMaps shared own ++ own).map .map) := by
      rw [Declares, hlists, mergedParameters_maps hcomparable]
    exact link_of_requestShape_fails hdeclares
      (Parameter.requestShape_of_nameless (op.get_declaring _) (exists_nameless_of_seen hseen))
  · have hrest : ∀ d ∈ shared.filter (Entries.has · "name") ++ own, IsComparable d := by
      intro d hd
      rcases List.mem_append.1 hd with hd | hd
      · exact hcomparable d (List.mem_append_left _ (List.mem_filter.1 hd).1)
      · exact hcomparable d (List.mem_append_right _ hd)
    -- both operations come to the same merged declarations
    refine link_congr ?_
    rw [hlists, hown, mergedParameters_maps hcomparable, mergedParameters_maps hrest,
      keptMaps_of_hidden hhidden]

/-- A path whose only shared declaration has no name. -/
def namelessItem : Entries :=
  [(.text "parameters", .list [.object [("in", .text "path"), ("type", .text "string")]]),
    (.text "get", .object [])]

def namelessOperation : Operation where
  path := .text "/pets"
  method := "GET"
  shared := .list [.object [("in", .text "path"), ("type", .text "string")]]
  body := []

theorem namelessOperation_refused :
    namelessOperation ∈ ofPathItem (.text "/pets") namelessItem ∧
      namelessOperation.link []
        = fail .missingParameterName "no name section in link data." := by
  have hop : namelessOperation ∈ ofPathItem (.text "/pets") namelessItem := by
    have hitem : ofPathItem (.text "/pets") namelessItem = [namelessOperation] := by decide +kernel
    rw [hitem]
    exact List.mem_singleton_self _
  have hshared : orEmpty (Entries.get namelessItem "parameters")
      = .list ([[(.text "in", .text "path"), (.text "type", .text "string")]].map .map) := rfl
  have hcomparable : IsComparable [(.text "in", .text "path"), (.text "type", .text "string")] :=
    ⟨(.null, .text "path"), rfl⟩
  obtain ⟨-, hcases⟩ := @link_of_nameless [] namelessOperation _ _ _ [] hop hshared rfl
  obtain ⟨hrefused, -⟩ := hcases (by simpa using hcomparable)
  exact ⟨hop, hrefused (.inr ⟨_, List.mem_singleton_self _, rfl, by simp⟩)⟩

/-- A path whose only shared declaration has no name, with an operation that hides it. -/
def hidingItem : Entries :=
  [(.text "parameters", .list [.object [("in", .text "body")]]),
    (.text "post", .object [
      ("parameters", .list [.object [("name", .null), ("in", .text "body")]])])]

/-- The operation has a link, although a declaration that it shares has no name. -/
theorem hidingItem_not_refused :
    orEmpty (Entries.get hidingItem "parameters") = .list [.map [(.text "in", .text "body")]] ∧
      Entries.has [(.text "in", .text "body")] "name" = false ∧
      ∃ op ∈ ofPathItem (.text "/pets") hidingItem, ∃ link, op.link [] = .ok link := by
  refine ⟨rfl, by decide +kernel, ?_⟩
  have hlinks : (ofPathItem (.text "/pets") hidingItem).map (fun op => (op.link []).toBool)
      = [true] := by decide +kernel
  obtain ⟨op, rest, hops, hlink, -⟩ := List.map_eq_cons_iff.1 hlinks
  rw [hops]
  exact ⟨op, List.mem_cons_self .., Outcome.exists_of_toBool hlink⟩

end ApiRouter.Operation

import ApiRouter.Proofs.Addressing
import ApiRouter.Proofs.Inlining

set_option autoImplicit false

/-! # When inlining fails

A pointer that is met again inside its own target is not followed again. Nothing is missed by that:
what can be read behind its second occurrence can be read behind its first one, so a reading that
comes to a reference at all comes to it without following a pointer inside its own target. Inlining
thus fails exactly when reading the payload comes to a reference that cannot be followed, the limit
of steps apart. What it fails with is a report on that pointer, unless the reference is no text or
asks for a position by digits that are no numeral. -/

namespace ApiRouter.Reference

variable {root v w x t : Value} {room : Nat} {seen : List String} {entries : Entries} {r : String}

/-! ## Reading without some pointers -/

/-- `VisitsWithout root seen v w`: reading `v` comes to `w` and follows no pointer in `seen`. -/
inductive VisitsWithout (root : Value) (seen : List String) : Value → Value → Prop where
  | here (v : Value) : VisitsWithout root seen v v
  | item {items : List Value} {v w : Value} :
      v ∈ items → VisitsWithout root seen v w → VisitsWithout root seen (.list items) w
  | entry {entries : Entries} {k : Scalar} {v w : Value} :
      Entries.find? entries "$ref" = none → (k, v) ∈ entries → VisitsWithout root seen v w →
        VisitsWithout root seen (.map entries) w
  | target {entries : Entries} {r : String} {t w : Value} :
      Entries.find? entries "$ref" = some (.text r) → r ∉ seen → Pointer.follow root r = .ok t →
        VisitsWithout root seen t w → VisitsWithout root seen (.map entries) w

theorem Visits.without_nil (h : Visits root v w) : VisitsWithout root [] v w := by
  induction h with
  | here v => exact .here v
  | item hv _ ih => exact .item hv ih
  | entry href hv _ ih => exact .entry href hv ih
  | target href ht _ ih => exact .target href List.not_mem_nil ht ih

/-- What reading comes to, it comes to without one more pointer, or it does so from the target of
that pointer: what is read after the pointer was followed for the last time. -/
theorem VisitsWithout.without_cons (h : VisitsWithout root seen v w)
    (ht : Pointer.follow root r = .ok t) :
    VisitsWithout root (r :: seen) v w ∨ VisitsWithout root (r :: seen) t w := by
  induction h with
  | here v => exact .inl (.here v)
  | item hv _ ih => exact ih.imp_left (.item hv)
  | entry href hv _ ih => exact ih.imp_left (.entry href hv)
  | @target entries q u w href hq hu _ ih =>
      by_cases hqr : q = r
      · -- from here on it is the target of the pointer that is read
        subst hqr
        cases ht.symm.trans hu
        exact .inr (ih.elim id id)
      · have hnew : q ∉ r :: seen := by
          rw [List.mem_cons, not_or]
          exact ⟨hqr, hq⟩
        exact ih.imp_left (.target href hnew hu)

/-! ## What a run has opened -/

/-- A run has followed every reference that can be read without the pointers being inlined. -/
theorem Run.opened {ref : Value} (h : Run root room seen v w)
    (hx : VisitsWithout root seen v (.map entries))
    (href : Entries.find? entries "$ref" = some ref) :
    ∃ r, ref = .text r ∧ (r ∈ seen ∨ ∃ t, Pointer.follow root r = .ok t) := by
  induction h with
  | atom hv =>
      cases hx with
      | here => cases hv
      | item => cases hv
      | entry => cases hv
      | target => cases hv
  | @list room seen items inlined hlength _ ih =>
      cases hx with
      | item hv hrest =>
          obtain ⟨y, hy⟩ := exists_mem_zip_left hlength hv
          exact ih _ hy hrest
  | @map room seen others inlined hnone hkeys _ ih =>
      cases hx with
      | here => cases hnone.symm.trans href
      | @entry _ k v _ _ hv hrest =>
          obtain ⟨y, hy⟩ := exists_mem_zip_left (Ordered.length_of_keys_eq hkeys) hv
          exact ih _ hy hrest
      | target hr => cases hnone.symm.trans hr
  | @again room seen others r hr hmem =>
      cases hx with
      | here =>
          cases hr.symm.trans href
          exact ⟨r, rfl, .inl hmem⟩
      | entry hnone => cases hnone.symm.trans hr
      | target hr' hnew =>
          cases hr.symm.trans hr'
          exact absurd hmem hnew
  | @target room seen others r t w hr hnew ht _ ih =>
      cases hx with
      | here =>
          cases hr.symm.trans href
          exact ⟨r, rfl, .inr ⟨t, ht⟩⟩
      | entry hnone => cases hnone.symm.trans hr
      | target hr' _ ht' hrest =>
          cases hr.symm.trans hr'
          cases ht.symm.trans ht'
          -- inside its own target the pointer is not followed again, so the way is cut short there
          obtain ⟨q, htext, hq⟩ := ih ((hrest.without_cons ht).elim id id)
          refine ⟨q, htext, ?_⟩
          rcases hq with hq | hfollow
          · rcases List.mem_cons.1 hq with rfl | hq
            · exact .inr ⟨t, ht⟩
            · exact .inl hq
          · exact .inr hfollow

/-- When inlining a payload gives a result, every reference that reading the payload comes to can be
followed. -/
theorem Run.resolvable (h : Run root room [] v w) : Resolvable root v := by
  intro entries ref hvisits href
  obtain ⟨r, htext, hr | ⟨t, ht⟩⟩ := h.opened hvisits.without_nil href
  · cases hr
  · exact ⟨r, t, htext, ht⟩

/-! ## Values that are written out

A value without open ends is written out to the last, and so is whatever reading it comes to. -/

theorem openEnds_list {items : List Value} :
    (Value.list items).openEnds = 0 ↔ ∀ v ∈ items, v.openEnds = 0 := by
  rw [Value.openEnds]
  induction items with
  | nil => simp [Value.openEndsOfItems]
  | cons v vs ih => rw [Value.openEndsOfItems, Nat.add_eq_zero_iff, ih, List.forall_mem_cons]

theorem openEnds_map {entries : Entries} :
    (Value.map entries).openEnds = 0 ↔ ∀ e ∈ entries, e.2.openEnds = 0 := by
  rw [Value.openEnds]
  induction entries with
  | nil => simp [Value.openEndsOfEntries]
  | cons e es ih => rw [Value.openEndsOfEntries, Nat.add_eq_zero_iff, ih, List.forall_mem_cons]

theorem openEnds_of_leads {segments : List String} (h : Pointer.Leads v segments w)
    (hv : v.openEnds = 0) : w.openEnds = 0 := by
  induction h with
  | here v => exact hv
  | key hfind _ ih =>
      exact ih (openEnds_map.1 hv _ (Ordered.mem_of_find? (Scalar.rigid_text _) hfind))
  | position _ hitem _ ih => exact ih (openEnds_list.1 hv _ (List.mem_of_getElem? hitem))

theorem openEnds_of_visits (h : Visits root v w) (hroot : root.openEnds = 0)
    (hv : v.openEnds = 0) : w.openEnds = 0 := by
  induction h with
  | here v => exact hv
  | item hmem _ ih => exact ih (openEnds_list.1 hv _ hmem)
  | entry _ hmem _ ih => exact ih (openEnds_map.1 hv _ hmem)
  | target _ ht _ ih =>
      obtain ⟨segments, -, hleads⟩ := Pointer.follow_eq_ok.1 ht
      exact ih (openEnds_of_leads hleads hroot)

/-! ## Dangling pointers -/

/-- The pointer leads to no place: it does not start in the document, or its segments lead nowhere
there. -/
def Dangling (root : Value) (r : String) : Prop :=
  ¬ "#/".toList <+: r.toList ∨
    ∃ segments, Pointer.segments? r = some segments ∧ ∀ t, ¬ Pointer.Leads root segments t

/-- Whatever reading the value finds under a `$ref` is a text. -/
def RefersByText (root v : Value) : Prop :=
  ∀ entries ref, Visits root v (.map entries) → Entries.find? entries "$ref" = some ref →
    ∃ r, ref = .text r

theorem RefersByText.of_references
    (h : ∀ ref ∈ references v ++ references root, ∃ r, ref = .text r) : RefersByText root v := by
  intro entries ref hvisits href
  have hknown := references_of_visits hvisits (List.subset_append_right (references v) _)
    (List.subset_append_left _ _)
  exact h ref (hknown (mem_references_self href))

theorem segments?_eq_none_iff : Pointer.segments? r = none ↔ ¬ "#/".toList <+: r.toList := by
  rw [Pointer.segments?]
  split
  · next rest hr =>
      exact iff_of_false (by simp) (not_not_intro ⟨rest, hr.symm⟩)
  · next hr =>
      refine iff_of_true rfl ?_
      rintro ⟨rest, hrest⟩
      exact hr rest hrest.symm

/-- The dangling pointers are those that cannot be followed. -/
theorem dangling_iff : Dangling root r ↔ ∃ e, Pointer.follow root r = .error e := by
  have hfails : (∃ e, Pointer.follow root r = .error e) ↔ ∀ t, Pointer.follow root r ≠ .ok t := by
    cases Pointer.follow root r with
    | ok t => simp
    | error e => simp
  rw [hfails, Dangling, ← segments?_eq_none_iff]
  simp only [ne_eq, Pointer.follow_eq_ok]
  cases Pointer.segments? r with
  | none => simp
  | some segments => simp

theorem Resolvable.refersByText (h : Resolvable root v) : RefersByText root v := by
  intro entries ref hentries href
  obtain ⟨r, -, htext, -⟩ := h entries ref hentries href
  exact ⟨r, htext⟩

theorem Resolvable.not_dangling (h : Resolvable root v) (hr : Reaches root v r) :
    ¬ Dangling root r := by
  intro hdangling
  obtain ⟨entries, hentries, href⟩ := hr
  obtain ⟨q, t, hq, ht⟩ := h entries _ hentries href
  obtain ⟨e, he⟩ := dangling_iff.1 hdangling
  cases hq
  cases ht.symm.trans he

theorem Fault.of_refersByText {e : Failure} (h : Fault root v e) (htext : RefersByText root v) :
    ∃ r, Reaches root v r ∧ Dangling root r ∧ Pointer.follow root r = .error e := by
  cases h with
  | pointer hr he => exact ⟨_, hr, dangling_iff.2 ⟨e, he⟩, he⟩
  | notText hentries href hnot =>
      obtain ⟨r, hr⟩ := htext _ _ hentries href
      exact absurd hr (hnot r)

/-- Inlining a payload whose references are texts fails where reading the payload comes to a
dangling pointer, also behind a cycle; whether pointers dangle elsewhere in the document does not
matter. It fails with what following such a pointer fails with. The only other failure is that the
steps run out, in a value that goes on without end or for more steps than what is written down needs
at most. -/
theorem inline_fails {payload : Value} (htext : RefersByText root payload) :
    ((∃ r, Reaches root payload r ∧ Dangling root r) → ∃ e, inline payload root = .error e) ∧
    (∀ e, inline payload root = .error e →
      (∃ r, Reaches root payload r ∧ Dangling root r ∧ Pointer.follow root r = .error e) ∨
        e = .defect .endless ∧
          (Visits root payload .endless ∨ stepLimit < roomFor root payload)) := by
  constructor
  · rintro ⟨r, hr, hdangling⟩
    cases h : inline payload root with
    | error e => exact ⟨e, rfl⟩
    | ok w => exact absurd hdangling ((inlineWith_eq_ok.1 h).resolvable.not_dangling hr)
  · intro e he
    rcases endsFor_of_inlineWith he with hfault | hroom
    · exact .inl (hfault.of_refersByText htext)
    · exact .inr hroom

/-- A document in which a node leads on to itself, and then to a leaf that is not there. -/
def bareNodes : Value :=
  .object [("definitions", .object
    [("Node", .object
        [("next", referTo "#/definitions/Node"), ("leaf", referTo "#/definitions/Leaf")]),
     ("Root", .object [("type", .text "string")])])]

/-- The missing leaf stands behind a cycle, and is met from a node but not from the root. -/
theorem inline_bareNodes_fails :
    RefersByText bareNodes (referTo "#/definitions/Node") ∧
      Reaches bareNodes (referTo "#/definitions/Node") "#/definitions/Leaf" ∧
      Dangling bareNodes "#/definitions/Leaf" ∧
      (∃ e, inline (referTo "#/definitions/Node") bareNodes = .error e) ∧
      inline (referTo "#/definitions/Root") bareNodes
        = .ok (.object [("type", .text "string")]) := by
  have hreferences : references (referTo "#/definitions/Node") ++ references bareNodes
      = ["#/definitions/Node", "#/definitions/Node", "#/definitions/Leaf"].map .text := by
    decide +kernel
  have htext : RefersByText bareNodes (referTo "#/definitions/Node") := by
    refine .of_references fun ref href => ?_
    rw [hreferences] at href
    obtain ⟨r, -, rfl⟩ := List.mem_map.1 href
    exact ⟨r, rfl⟩
  have hnode : Pointer.follow bareNodes "#/definitions/Node" = .ok (.object
      [("next", referTo "#/definitions/Node"), ("leaf", referTo "#/definitions/Leaf")]) := by
    decide +kernel
  have hleaf : Visits bareNodes (referTo "#/definitions/Node") (referTo "#/definitions/Leaf") :=
    .target rfl hnode (.entry (k := .text "leaf") rfl
      (List.mem_cons_of_mem _ (List.mem_cons_self ..)) (.here _))
  have hreach : Reaches bareNodes (referTo "#/definitions/Node") "#/definitions/Leaf" :=
    ⟨_, hleaf, rfl⟩
  have hdangling : Dangling bareNodes "#/definitions/Leaf" :=
    dangling_iff.2 ⟨.report .specParse
      "Cannot resolve $ref '#/definitions/Leaf': key 'Leaf' not found at path", by decide +kernel⟩
  exact ⟨htext, hreach, hdangling, (inline_fails htext).1 ⟨_, hreach, hdangling⟩, by decide +kernel⟩

/-- A chain of a thousand definitions refers by texts, none of its pointers dangles, and the steps
run out on the way. And a dangling pointer inside a pair is not met. -/
theorem long_chain_fails_without_dangling :
    (RefersByText (chain 1000) (chainLink 1000 0) ∧
      (∀ r, Reaches (chain 1000) (chainLink 1000 0) r → ¬ Dangling (chain 1000) r) ∧
      inline (chainLink 1000 0) (chain 1000) = .error (.defect .endless)) ∧
    Dangling pets "#/definitions/Toy" ∧
      inline (.list [.pair (.text "a") (referTo "#/definitions/Toy")]) pets
        = .ok (.list [.pair (.text "a") (referTo "#/definitions/Toy")]) := by
  have hresolvable : Resolvable (chain 1000) (chainLink 1000 0) := chain_resolvable (by omega)
  have hchain : inline (chainLink 1000 0) (chain 1000) = .error (.defect .endless) :=
    inlineWith_chain (by omega) (by decide) fun r hr => absurd hr List.not_mem_nil
  have htoy : Dangling pets "#/definitions/Toy" :=
    dangling_iff.2 ⟨.report .specParse
      "Cannot resolve $ref '#/definitions/Toy': key 'Toy' not found at path", by decide +kernel⟩
  exact ⟨⟨hresolvable.refersByText, fun r => hresolvable.not_dangling, hchain⟩, htoy,
    by decide +kernel⟩

/-! ## What inlining fails with -/

/-- Inlining gives a result, or it fails with a report on a pointer that reading the payload comes
to. What else it can fail with has one of three causes: such a pointer asks for a position by digits
that are no numeral, a reference is no text, or the steps run out, because a value holds itself or
because there are more steps to take than the limit. -/
theorem inline_cases (payload root : Value) :
    (∃ w, inline payload root = .ok w) ∨
    (∃ r e, Reaches root payload r ∧ Pointer.IsReportOn r e ∧ inline payload root = .error e) ∨
    (∃ r, Reaches root payload r ∧ Pointer.HasUnreadableIndex root r ∧
      inline payload root = defect .badValue) ∨
    (∃ entries ref, Visits root payload (.map entries) ∧
      Entries.find? entries "$ref" = some ref ∧ (∀ r, ref ≠ .text r) ∧
        inline payload root = .error (misuse ref)) ∨
    (payload.openEnds ≠ 0 ∨ root.openEnds ≠ 0 ∨ stepLimit < roomFor root payload) ∧
      inline payload root = defect .endless := by
  cases h : inline payload root with
  | ok w => exact .inl ⟨w, rfl⟩
  | error e =>
      right
      rcases endsFor_of_inlineWith h with hfault | ⟨rfl, hend | hlack⟩
      · cases hfault with
        | @pointer r e hr he =>
            rcases Pointer.follow_eq_error he with hreport | ⟨rfl, hindex⟩ | ⟨rfl, segments, hleads⟩
            · exact .inl ⟨r, e, hr, hreport, rfl⟩
            · exact .inr (.inl ⟨r, hr, hindex, rfl⟩)
            · refine .inr (.inr (.inr ⟨.inr (.inl fun hroot => ?_), rfl⟩))
              cases openEnds_of_leads hleads hroot
        | @notText entries ref hentries href htext =>
            exact .inr (.inr (.inl ⟨entries, ref, hentries, href, htext, rfl⟩))
      · refine .inr (.inr (.inr ⟨?_, rfl⟩))
        by_cases hpayload : payload.openEnds = 0
        · refine .inr (.inl fun hroot => ?_)
          cases openEnds_of_visits hend hroot hpayload
        · exact .inl hpayload
      · exact .inr (.inr (.inr ⟨.inr (.inr hlack), rfl⟩))

/-- Not every failure is a report: a superscript counts as a digit but is no numeral, a number is no
pointer, and a property that is called `$ref` is taken for a reference. -/
theorem inline_not_reported :
    inline (referTo "#/sizes/²") (.object [("sizes", .list [.text "S", .text "M", .text "L"])])
        = defect .badValue ∧
      inline (.object [("$ref", .int 5)]) (.object []) = defect .noMember ∧
      inline (.object [("properties", .object [("$ref", .object [("type", .text "string")])])])
        (.object []) = defect .wrongType := by
  decide +kernel

end ApiRouter.Reference

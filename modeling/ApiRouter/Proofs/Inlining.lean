import ApiRouter.Proofs.References
import ApiRouter.Proofs.Rows
import Mathlib.Data.List.Forall2
import Mathlib.Data.List.Dedup
import Mathlib.Data.List.Perm.Subperm

set_option autoImplicit false

/-! # Inlining comes to an end, and leaves cycles only

Inlining goes down into collections and through references, and keeps the pointers that it is
inlining. A pointer that it keeps has been followed to a place from which reading comes to the value
at hand, so a pointer that it meets again lies on a cycle; where there are no cycles every reference
is replaced. As no pointer is followed inside its own target, the steps under way are bounded by
what is written in the payload and in the document. -/

namespace ApiRouter.Reference

variable {root x y v w : Value} {room : Nat} {seen : List String} {entries : Entries} {r : String}

/-! ## Runs that succeed -/

/-- `Run root room seen v w`: inlining `v` gives `w`, with `room` more steps to take while the
pointers in `seen` are being inlined. -/
inductive Run (root : Value) : Nat → List String → Value → Value → Prop where
  | atom {room : Nat} {seen : List String} {v : Value} : IsAtom v → Run root (room + 1) seen v v
  | list {room : Nat} {seen : List String} {items inlined : List Value} :
      items.length = inlined.length → (∀ p ∈ items.zip inlined, Run root room seen p.1 p.2) →
        Run root (room + 2) seen (.list items) (.list inlined)
  | map {room : Nat} {seen : List String} {entries inlined : Entries} :
      Entries.find? entries "$ref" = none → Ordered.keys entries = Ordered.keys inlined →
        (∀ p ∈ entries.zip inlined, Run root room seen p.1.2 p.2.2) →
          Run root (room + 2) seen (.map entries) (.map inlined)
  | again {room : Nat} {seen : List String} {entries : Entries} {r : String} :
      Entries.find? entries "$ref" = some (.text r) → r ∈ seen →
        Run root (room + 2) seen (.map entries) (.map entries)
  | target {room : Nat} {seen : List String} {entries : Entries} {r : String} {t w : Value} :
      Entries.find? entries "$ref" = some (.text r) → r ∉ seen → Pointer.follow root r = .ok t →
        Run root (room + 1) (r :: seen) t w → Run root (room + 2) seen (.map entries) w

theorem inlineWith_atom (h : IsAtom v) : inlineWith root (room + 1) seen v = .ok v := by
  cases v with
  | scalar s | pair a b | set members => rfl
  | list items => cases h
  | map entries => cases h
  | endless => cases h

theorem inlineWith_one (h : ¬ IsAtom v) : inlineWith root 1 seen v = defect .endless := by
  cases v with
  | scalar s | pair a b | set members => exact absurd trivial h
  | list items | map entries | endless => rfl

theorem inlineWith_list (items : List Value) :
    inlineWith root (room + 2) seen (.list items)
      = .list <$> items.mapM (inlineWith root room seen) := rfl

/-- What comes of a reference that is no text. -/
def misuse : Value → Failure
  | .bytes _ => .defect .wrongType
  | .scalar _ => .defect .noMember
  | .endless => .defect .endless
  | _ => .defect .wrongType

/-- What comes of a mapping is decided by what stands under its `$ref`. -/
theorem inlineWith_entries (entries : Entries) :
    inlineWith root (room + 2) seen (.map entries) =
      match Entries.find? entries "$ref" with
      | none => .map <$> entries.mapM fun (k, v) => (k, ·) <$> inlineWith root room seen v
      | some (.text r) =>
        if r ∈ seen then .ok (.map entries)
        else Pointer.follow root r >>= inlineWith root (room + 1) (r :: seen)
      | some ref => .error (misuse ref) := by
  rw [inlineWith]
  cases Entries.find? entries "$ref" with
  | none => rfl
  | some ref =>
      cases ref with
      | scalar s =>
          cases s with
          | text r => rfl
          | _ => rfl
      | _ => rfl

theorem inlineWith_map (href : Entries.find? entries "$ref" = none) :
    inlineWith root (room + 2) seen (.map entries)
      = .map <$> entries.mapM fun (k, v) => (k, ·) <$> inlineWith root room seen v := by
  rw [inlineWith_entries, href]

theorem inlineWith_first_error {k : Scalar} {rest : Entries} {e : Failure}
    (href : Entries.find? ((k, v) :: rest) "$ref" = none)
    (h : inlineWith root room seen v = .error e) :
    inlineWith root (room + 2) seen (.map ((k, v) :: rest)) = .error e := by
  rw [inlineWith_map href, List.mapM_cons]
  simp only [h]
  rfl

theorem inlineWith_again (href : Entries.find? entries "$ref" = some (.text r)) (hr : r ∈ seen) :
    inlineWith root (room + 2) seen (.map entries) = .ok (.map entries) := by
  rw [inlineWith_entries, href]
  simp only [if_pos hr]

theorem inlineWith_target (href : Entries.find? entries "$ref" = some (.text r)) (hr : r ∉ seen) :
    inlineWith root (room + 2) seen (.map entries)
      = Pointer.follow root r >>= inlineWith root (room + 1) (r :: seen) := by
  rw [inlineWith_entries, href]
  simp only [if_neg hr]

/-- A reference that is no text ends the inlining. -/
theorem inlineWith_misuse {ref : Value} (href : Entries.find? entries "$ref" = some ref)
    (htext : ∀ r, ref ≠ .text r) :
    inlineWith root (room + 2) seen (.map entries) = .error (misuse ref) := by
  rw [inlineWith_entries, href]
  split
  · next h => cases h
  · next r h => exact absurd (Option.some.inj h) (htext r)
  · next h => rw [Option.some.inj h]

/-- Entries inlined one by one keep their keys. -/
theorem mapM_entries_eq_ok {f : Value → Except Failure Value} {inlined : Entries} :
    entries.mapM (fun e => (e.1, ·) <$> f e.2) = .ok inlined ↔
      Ordered.keys entries = Ordered.keys inlined ∧
        ∀ p ∈ entries.zip inlined, f p.1.2 = .ok p.2.2 := by
  rw [Outcome.mapM_eq_ok]
  constructor
  · intro h
    induction h with
    | nil => simp [Ordered.keys]
    | cons hhead _ ih =>
        obtain ⟨v, hv, rfl⟩ := Outcome.map_eq_ok.1 hhead
        refine ⟨congrArg₂ List.cons rfl ih.1, ?_⟩
        rw [List.zip_cons_cons, List.forall_mem_cons]
        exact ⟨hv, ih.2⟩
  · rintro ⟨hkeys, hvalues⟩
    induction entries generalizing inlined with
    | nil =>
        rw [List.map_eq_nil_iff.1 hkeys.symm]
        exact .nil
    | cons e rest ih =>
        obtain ⟨e', rest', rfl, he, hrest⟩ := List.map_eq_cons_iff.1 hkeys.symm
        rw [List.zip_cons_cons, List.forall_mem_cons] at hvalues
        refine .cons (Outcome.map_eq_ok.2 ⟨e'.2, hvalues.1, ?_⟩) (ih hrest.symm hvalues.2)
        rw [← he]

theorem inlineWith_eq_ok : inlineWith root room seen v = .ok w ↔ Run root room seen v w := by
  constructor
  · intro h
    -- a collection takes two steps, so the induction is a strong one
    induction room using Nat.strongRecOn generalizing seen v w with
    | ind room ih =>
      match room, v with
      | 0, _ => cases h
      | room + 1, .scalar s =>
          rw [inlineWith_atom (v := .scalar s) trivial] at h
          cases h
          exact .atom trivial
      | room + 1, .pair a b =>
          rw [inlineWith_atom (v := .pair a b) trivial] at h
          cases h
          exact .atom trivial
      | room + 1, .set members =>
          rw [inlineWith_atom (v := .set members) trivial] at h
          cases h
          exact .atom trivial
      | 1, .list items => cases h
      | 1, .map entries => cases h
      | 1, .endless => cases h
      | room + 2, .endless => cases h
      | room + 2, .list items =>
          rw [inlineWith_list] at h
          obtain ⟨inlined, hitems, rfl⟩ := Outcome.map_eq_ok.1 h
          obtain ⟨hlength, hitems⟩ := List.forall₂_iff_zip.1 (Outcome.mapM_eq_ok.1 hitems)
          exact .list hlength fun p hp => ih room (by omega) (hitems hp)
      | room + 2, .map entries =>
          cases href : Entries.find? entries "$ref" with
          | none =>
              rw [inlineWith_map href] at h
              obtain ⟨inlined, hentries, rfl⟩ := Outcome.map_eq_ok.1 h
              obtain ⟨hkeys, hentries⟩ := mapM_entries_eq_ok.1 hentries
              exact .map href hkeys fun p hp => ih room (by omega) (hentries p hp)
          | some ref =>
              by_cases htext : ∃ r, ref = .text r
              · obtain ⟨r, rfl⟩ := htext
                by_cases hr : r ∈ seen
                · rw [inlineWith_again href hr] at h
                  cases h
                  exact .again href hr
                · rw [inlineWith_target href hr] at h
                  obtain ⟨t, ht, h⟩ := Outcome.bind_eq_ok.1 h
                  exact .target href hr ht (ih (room + 1) (by omega) h)
              · rw [inlineWith_misuse href fun r hr => htext ⟨r, hr⟩] at h
                cases h
  · intro h
    induction h with
    | atom hv => exact inlineWith_atom hv
    | list hlength _ ih =>
        rw [inlineWith_list, Outcome.map_eq_ok]
        exact ⟨_, Outcome.mapM_eq_ok.2 (List.forall₂_iff_zip.2 ⟨hlength, ih _⟩), rfl⟩
    | map href hkeys _ ih =>
        rw [inlineWith_map href, Outcome.map_eq_ok]
        exact ⟨_, mapM_entries_eq_ok.2 ⟨hkeys, ih⟩, rfl⟩
    | again href hr => exact inlineWith_again href hr
    | target href hr ht _ ih =>
        rw [inlineWith_target href hr, ht]
        exact ih

/-- More room than needed changes nothing. -/
theorem Run.mono (h : Run root room seen v w) : Run root (room + 1) seen v w := by
  induction h with
  | atom hv => exact .atom hv
  | list hlength _ ih => exact .list hlength ih
  | map href hkeys _ ih => exact .map href hkeys ih
  | again href hr => exact .again href hr
  | target href hr ht _ ih => exact .target href hr ht ih

theorem Run.of_le {room' : Nat} (h : Run root room seen v w) (hle : room ≤ room') :
    Run root room' seen v w := by
  induction hle with
  | refl => exact h
  | step _ ih => exact ih.mono

/-! ## What remains lies on a cycle -/

/-- The pointers in `seen` have been followed on the way to `v`. -/
def OnTheWay (root : Value) (seen : List String) (v : Value) : Prop :=
  ∀ r ∈ seen, ∃ t, Pointer.follow root r = .ok t ∧ Visits root t v

theorem OnTheWay.visits (h : OnTheWay root seen v) (hv : Visits root v w) :
    OnTheWay root seen w := by
  intro r hr
  obtain ⟨t, ht, hvisits⟩ := h r hr
  exact ⟨t, ht, hvisits.trans hv⟩

theorem OnTheWay.follow {t : Value} (h : OnTheWay root seen (.map entries))
    (href : Entries.find? entries "$ref" = some (.text r)) (ht : Pointer.follow root r = .ok t) :
    OnTheWay root (r :: seen) t := by
  intro q hq
  rcases List.mem_cons.1 hq with rfl | hq
  · exact ⟨t, ht, .here t⟩
  · exact h.visits (.target href ht (.here t)) q hq

/-- A reference that is left in the result is reached from the value and lies on a cycle. -/
theorem Run.remaining (h : Run root room seen v w) (hseen : OnTheWay root seen v) {left : Entries}
    {ref : Value} (hleft : Part w (.map left)) (href : Entries.find? left "$ref" = some ref) :
    ∃ r, ref = .text r ∧ Reaches root v r ∧ OnCycle root r := by
  induction h with
  | atom hv =>
      -- nothing is read inside an atom, and no mapping is one
      cases hleft with
      | whole => cases hv
      | item => cases hv
      | entry => cases hv
  | @list room seen items inlined hlength _ ih =>
      cases hleft with
      | item hy hpart =>
          obtain ⟨v, hv⟩ := exists_mem_zip hlength hy
          have hvisits : Visits root (.list items) v := .item (List.of_mem_zip hv).1 (.here v)
          obtain ⟨r, htext, hreach, hcycle⟩ := ih _ hv (hseen.visits hvisits) hpart
          exact ⟨r, htext, hreach.of_visits hvisits, hcycle⟩
  | @map room seen entries inlined hnone hkeys _ ih =>
      cases hleft with
      | whole =>
          rcases Ordered.find?_of_keys_eq hkeys (.text "$ref") with ⟨-, hnone'⟩ | ⟨_, _, _, -, h, -⟩
          · cases hnone'.symm.trans href
          · cases hnone.symm.trans h
      | entry hnone' hy hpart =>
          obtain ⟨⟨k, v⟩, hv⟩ := exists_mem_zip (Ordered.length_of_keys_eq hkeys) hy
          have hvisits : Visits root (.map entries) v :=
            .entry hnone (List.of_mem_zip hv).1 (.here v)
          obtain ⟨r, htext, hreach, hcycle⟩ := ih _ hv (hseen.visits hvisits) hpart
          exact ⟨r, htext, hreach.of_visits hvisits, hcycle⟩
  | @again room seen entries r hr hmem =>
      have hself : left = entries := by
        cases hleft with
        | whole => rfl
        | entry hnone => cases hnone.symm.trans hr
      subst hself
      cases hr.symm.trans href
      obtain ⟨t, ht, hvisits⟩ := hseen r hmem
      exact ⟨r, rfl, ⟨left, .here _, hr⟩, t, ht, left, hvisits, hr⟩
  | target hr hnew ht _ ih =>
      obtain ⟨q, htext, hreach, hcycle⟩ := ih (hseen.follow hr ht) hleft
      exact ⟨q, htext, hreach.of_visits (.target hr ht (.here _)), hcycle⟩

/-- Where no pointer lies on a cycle, no reference is left. -/
theorem Run.refFree (h : Run root room [] v w) (hacyclic : Acyclic root v) : RefFree w := by
  intro left hleft
  cases href : Entries.find? left "$ref" with
  | none => rfl
  | some ref =>
      have hway : OnTheWay root [] v := fun r hr => absurd hr (List.not_mem_nil)
      obtain ⟨r, -, hreach, hcycle⟩ := h.remaining hway hleft href
      exact absurd hcycle (hacyclic r hreach)

/-! ## The value with its references replaced -/

theorem RefFree.of_zip_items {items inlined : List Value} (hfree : RefFree (.list inlined))
    {p : Value × Value} (hp : p ∈ items.zip inlined) : RefFree p.2 :=
  hfree.item (List.of_mem_zip hp).2

theorem RefFree.of_zip_entries {inlined : Entries} (hfree : RefFree (.map inlined))
    {p : (Scalar × Value) × Scalar × Value} (hp : p ∈ entries.zip inlined) : RefFree p.2.2 :=
  hfree.entry (List.of_mem_zip hp).2

/-- A run that leaves no reference replaces each by its target and keeps everything else. -/
theorem Run.inlines (h : Run root room seen v w) (hfree : RefFree w) : Inlines root v w := by
  induction h with
  | atom hv => exact .atom hv
  | list hlength _ ih => exact .list hlength fun p hp => ih p hp (hfree.of_zip_items hp)
  | map hnone hkeys _ ih => exact .map hnone hkeys fun p hp => ih p hp (hfree.of_zip_entries hp)
  | again hr => cases (hfree _ (.whole _)).symm.trans hr
  | target hr _ ht _ ih => exact .target hr ht (ih hfree)

/-- A result without references stays as it is, in the room in which it was found. -/
theorem Run.self (h : Run root room seen v w) (hfree : RefFree w) : Run root room [] w w := by
  induction h with
  | atom hv => exact .atom hv
  | list hlength _ ih =>
      refine .list rfl fun p hp => ?_
      obtain ⟨x, hx⟩ := exists_mem_zip hlength (List.of_mem_zip hp).2
      rw [eq_of_mem_zip_self hp]
      exact ih (x, p.2) hx (hfree.of_zip_items hx)
  | map hnone hkeys _ ih =>
      refine .map (hfree _ (.whole _)) rfl fun p hp => ?_
      obtain ⟨x, hx⟩ := exists_mem_zip (Ordered.length_of_keys_eq hkeys) (List.of_mem_zip hp).2
      rw [eq_of_mem_zip_self hp]
      exact ih (x, p.2) hx (hfree.of_zip_entries hx)
  | again hr => cases (hfree _ (.whole _)).symm.trans hr
  | target _ _ _ _ ih => exact (ih hfree).mono

/-! ## Coming to an end -/

/-- The room that suffices for a value while `left` references are not being inlined: a level of a
collection takes two steps, and every pointer opens one more place of the document. -/
def roomWith (root : Value) (left : Nat) (v : Value) : Nat :=
  2 * height v + 1 + left * (2 * height root + 1)

/-- The room that suffices for a payload: no pointer is followed inside its own target, so each of
the pointers that are written down is followed at most once on the way to a part. -/
def roomFor (root payload : Value) : Nat :=
  roomWith root (references payload ++ references root).dedup.length payload

theorem roomWith_item (root : Value) (left : Nat) {items : List Value} (hx : x ∈ items) :
    roomWith root left x + 2 ≤ roomWith root left (.list items) := by
  have hle := height_le_of_mem hx
  rw [roomWith, roomWith, height]
  omega

theorem roomWith_entry (root : Value) (left : Nat) {k : Scalar} (hx : (k, x) ∈ entries) :
    roomWith root left x + 2 ≤ roomWith root left (.map entries) := by
  have hle := height_le_of_entry hx
  rw [roomWith, roomWith, height]
  omega

/-- Following one more pointer pays for the place that it leads to. -/
theorem roomWith_follow (entries : Entries) (left : Nat) {t : Value}
    (ht : Pointer.follow root r = .ok t) :
    roomWith root left t + 2 ≤ roomWith root (left + 1) (.map entries) := by
  have hle := height_le_of_follow ht
  rw [roomWith, roomWith, height, Nat.add_mul, Nat.one_mul]
  omega

/-- `Fault root v e`: reading `v` comes to a reference that cannot be followed, and `e` says why. -/
inductive Fault (root v : Value) : Failure → Prop where
  | pointer {r : String} {e : Failure} :
      Reaches root v r → Pointer.follow root r = .error e → Fault root v e
  | notText {entries : Entries} {ref : Value} :
      Visits root v (.map entries) → Entries.find? entries "$ref" = some ref →
        (∀ r, ref ≠ .text r) → Fault root v (misuse ref)

theorem Fault.of_visits {e : Failure} (h : Fault root w e) (hv : Visits root v w) :
    Fault root v e := by
  cases h with
  | pointer hr he => exact .pointer (hr.of_visits hv) he
  | notText hw href htext => exact .notText (hv.trans hw) href htext

theorem Resolvable.no_fault {e : Failure} (h : Resolvable root v) : ¬ Fault root v e := by
  intro hfault
  cases hfault with
  | pointer hr he =>
      obtain ⟨entries, hentries, href⟩ := hr
      obtain ⟨r', t, htext, ht⟩ := h entries _ hentries href
      cases htext
      cases ht.symm.trans he
  | notText hentries href htext =>
      obtain ⟨r, -, hr, -⟩ := h _ _ hentries href
      exact htext r hr

/-- Why inlining `v` ends without a result: for a reference, in a place that goes on without end, or
because there is less room than `bound`. -/
def EndsFor (root v : Value) (room bound : Nat) (e : Failure) : Prop :=
  Fault root v e ∨ e = .defect .endless ∧ (Visits root v .endless ∨ room < bound)

theorem EndsFor.of_visits {room' bound bound' : Nat} {e : Failure} (h : EndsFor root w room bound e)
    (hv : Visits root v w) (hroom : room < bound → room' < bound') :
    EndsFor root v room' bound' e := by
  rcases h with hfault | ⟨he, hend | hlack⟩
  · exact .inl (hfault.of_visits hv)
  · exact .inr ⟨he, .inl (hv.trans hend)⟩
  · exact .inr ⟨he, .inr (hroom hlack)⟩

/-- The pointers that are being inlined are different and written down, so what is written down
bounds the room in which they can be opened. -/
theorem inlineWith_error {known : List Value} {e : Failure} (hroot : references root ⊆ known)
    (hknown : references v ⊆ known) (hseen : seen.map .text ⊆ known) (hnodup : seen.Nodup)
    (h : inlineWith root room seen v = .error e) :
    EndsFor root v room (roomWith root (known.length - seen.length) v) e := by
  induction room using Nat.strongRecOn generalizing seen v with
  | ind room ih =>
    match room, v with
    | 0, _ =>
        cases h
        exact .inr ⟨rfl, .inr (by rw [roomWith]; omega)⟩
    | room + 1, .scalar s => cases (inlineWith_atom (v := .scalar s) trivial).symm.trans h
    | room + 1, .pair a b => cases (inlineWith_atom (v := .pair a b) trivial).symm.trans h
    | room + 1, .set members => cases (inlineWith_atom (v := .set members) trivial).symm.trans h
    | 1, .list items | 1, .map entries =>
        cases h
        exact .inr ⟨rfl, .inr (by rw [roomWith, height]; omega)⟩
    | 1, .endless | room + 2, .endless =>
        cases h
        exact .inr ⟨rfl, .inl (.here _)⟩
    | room + 2, .list items =>
        rw [inlineWith_list, Outcome.map_eq_error] at h
        obtain ⟨x, hx, h⟩ := Outcome.exists_of_mapM_eq_error h
        have hle := roomWith_item root (known.length - seen.length) hx
        have hends := ih room (by omega) (List.Subset.trans (references_of_mem hx) hknown) hseen
          hnodup h
        exact hends.of_visits (.item hx (.here x)) (by omega)
    | room + 2, .map entries =>
        cases href : Entries.find? entries "$ref" with
        | none =>
            rw [inlineWith_map href, Outcome.map_eq_error] at h
            obtain ⟨⟨k, x⟩, hx, h⟩ := Outcome.exists_of_mapM_eq_error h
            rw [Outcome.map_eq_error] at h
            have hle := roomWith_entry root (known.length - seen.length) hx
            have hends := ih room (by omega) (List.Subset.trans (references_of_entry hx) hknown)
              hseen hnodup h
            exact hends.of_visits (.entry href hx (.here x)) (by omega)
        | some ref =>
            by_cases htext : ∃ r, ref = .text r
            · obtain ⟨r, rfl⟩ := htext
              by_cases hr : r ∈ seen
              · cases (inlineWith_again href hr).symm.trans h
              · rw [inlineWith_target href hr] at h
                rcases Outcome.bind_eq_error.1 h with ht | ⟨t, ht, h⟩
                · exact .inl (.pointer ⟨entries, .here _, href⟩ ht)
                · have hseen' : (r :: seen).map .text ⊆ known :=
                    List.cons_subset.2 ⟨hknown (mem_references_self href), hseen⟩
                  have hnodup' : (r :: seen).Nodup := List.nodup_cons.2 ⟨hr, hnodup⟩
                  have hends := ih (room + 1) (by omega)
                    (List.Subset.trans (references_of_follow ht) hroot) hseen' hnodup' h
                  -- the pointers kept are distinct, so there was one left to be kept
                  have hdistinct : ((r :: seen).map Value.text).Nodup :=
                    hnodup'.map fun a b hab => by simpa using hab
                  have hcount := (hdistinct.subperm hseen').length_le
                  rw [List.length_map, List.length_cons] at hcount
                  have hle := roomWith_follow entries (known.length - (seen.length + 1)) ht
                  have hleft : known.length - seen.length
                      = known.length - (seen.length + 1) + 1 := by omega
                  rw [List.length_cons] at hends
                  rw [hleft]
                  exact hends.of_visits (.target href ht (.here t)) (by omega)
            · rw [inlineWith_misuse href fun r hr => htext ⟨r, hr⟩] at h
              cases h
              exact .inl (.notText (.here _) href fun r hr => htext ⟨r, hr⟩)

/-- For a payload that is not inside any target yet, what is written down bounds the room. -/
theorem endsFor_of_inlineWith {e : Failure} (h : inlineWith root room [] v = .error e) :
    EndsFor root v room (roomFor root v) e := by
  have hknown : references v ++ references root ⊆ (references v ++ references root).dedup :=
    List.subset_dedup _
  exact inlineWith_error (List.Subset.trans (List.subset_append_right ..) hknown)
    (List.Subset.trans (List.subset_append_left ..) hknown) (List.nil_subset _) List.nodup_nil h

/-- Where every reference can be followed, the inlining ends without a result only in a place that
goes on without end, or for a lack of room. -/
theorem inlineWith_nil_error {e : Failure} (hresolvable : Resolvable root v)
    (h : inlineWith root room [] v = .error e) :
    e = .defect .endless ∧ (Visits root v .endless ∨ room < roomFor root v) :=
  (endsFor_of_inlineWith h).resolve_left hresolvable.no_fault

/-! ## Inlining a payload -/

/-- Inlining a payload whose references can be followed. It ends: with a result, whether or not
there are cycles, as soon as there is room for what is written down, and otherwise because the steps
that may be under way run out. What a result still holds under a `$ref` lies on a cycle. Without
cycles the result is the payload with every reference replaced, and inlining it again changes
nothing. -/
theorem inline_leaves_cycles {payload : Value} (hresolvable : Resolvable root payload) :
    (∀ e, inline payload root = .error e →
      e = .defect .endless ∧
        (Visits root payload .endless ∨ stepLimit < roomFor root payload)) ∧
    (¬ Visits root payload .endless → ∀ room, roomFor root payload ≤ room →
      ∃ w, inlineWith root room [] payload = .ok w ∧
        ∀ w', inline payload root = .ok w' → w' = w) ∧
    ∀ w, inline payload root = .ok w →
      (∀ left ref, Part w (.map left) → Entries.find? left "$ref" = some ref →
        ∃ r, ref = .text r ∧ Reaches root payload r ∧ OnCycle root r) ∧
      (Acyclic root payload →
        RefFree w ∧ Inlines root payload w ∧ inline w root = .ok w) := by
  refine ⟨fun e he => inlineWith_nil_error hresolvable he, fun hend room hroom => ?_,
    fun w hw => ⟨fun left ref hleft href => ?_, fun hacyclic => ?_⟩⟩
  · cases h : inlineWith root room [] payload with
    | error e =>
        obtain ⟨-, hvisits | hlack⟩ := inlineWith_nil_error hresolvable h
        · exact absurd hvisits hend
        · omega
    | ok w =>
        refine ⟨w, rfl, fun w' hw' => ?_⟩
        -- with the larger of the two rooms both runs go through
        have hlong := (inlineWith_eq_ok.1 h).of_le (Nat.le_max_left room stepLimit)
        have hlong' := (inlineWith_eq_ok.1 hw').of_le (Nat.le_max_right room stepLimit)
        have hsame := (inlineWith_eq_ok.2 hlong').symm.trans (inlineWith_eq_ok.2 hlong)
        exact Except.ok.inj hsame
  · have hway : OnTheWay root [] payload := fun r hr => absurd hr (List.not_mem_nil)
    exact (inlineWith_eq_ok.1 hw).remaining hway hleft href
  · have hrun := inlineWith_eq_ok.1 hw
    have hfree := hrun.refFree hacyclic
    exact ⟨hfree, hrun.inlines hfree, inlineWith_eq_ok.2 (hrun.self hfree)⟩

/-- A reference to the place that a pointer names. -/
def referTo (r : String) : Value :=
  .object [("$ref", .text r)]

/-- A document in which a node leads on to the next one. -/
def nodes : Value :=
  .object [("definitions", .object [("Node", .object [("next", referTo "#/definitions/Node")])])]

/-- A document in which a pet leads to its owner. -/
def pets : Value :=
  .object [("definitions", .object
    [("Pet", .object [("owner", referTo "#/definitions/Owner")]),
     ("Owner", .object [("type", .text "string")])])]

theorem inline_nodes_and_pets :
    (inline (referTo "#/definitions/Node") nodes
        = .ok (.object [("next", referTo "#/definitions/Node")]) ∧
      OnCycle nodes "#/definitions/Node") ∧
    inline (referTo "#/definitions/Pet") pets
        = .ok (.object [("owner", .object [("type", .text "string")])]) ∧
      RefFree (.object [("owner", .object [("type", .text "string")])]) := by
  have hnodes : Resolvable nodes (referTo "#/definitions/Node") :=
    .of_references fun ref href => Outcome.exists_of_toBool
      ((by decide +kernel : ∀ ref ∈ references (referTo "#/definitions/Node") ++ references nodes,
        (Pointer.followValue nodes ref).toBool = true) ref href)
  have hpets : Resolvable pets (referTo "#/definitions/Pet") :=
    .of_references fun ref href => Outcome.exists_of_toBool
      ((by decide +kernel : ∀ ref ∈ references (referTo "#/definitions/Pet") ++ references pets,
        (Pointer.followValue pets ref).toBool = true) ref href)
  have hacyclic : Acyclic pets (referTo "#/definitions/Pet") :=
    .of_rank (fun ref => if ref = .text "#/definitions/Pet" then 1 else 0) (by decide +kernel)
  have hnode : inline (referTo "#/definitions/Node") nodes
      = .ok (.object [("next", referTo "#/definitions/Node")]) := by decide +kernel
  have hpet : inline (referTo "#/definitions/Pet") pets
      = .ok (.object [("owner", .object [("type", .text "string")])]) := by decide +kernel
  obtain ⟨-, -, hleft⟩ := inline_leaves_cycles hnodes
  obtain ⟨-, -, hfree⟩ := inline_leaves_cycles hpets
  obtain ⟨r, hr, -, hcycle⟩ := (hleft _ hnode).1 [(.text "$ref", .text "#/definitions/Node")] _
    (.entry (k := .text "next") rfl (List.mem_cons_self ..) (.whole _)) rfl
  cases hr
  exact ⟨⟨hnode, hcycle⟩, hpet, ((hfree _ hpet).2 hacyclic).1⟩

/-! ## A chain that is too long

The steps that may be under way are limited. A chain of definitions, each of which refers to the
next one, has no cycle, and still no result when it is longer than that. -/

/-- The character that is the key of the `i`-th definition of a chain. -/
def chainKey (i : Nat) : Char :=
  Char.ofNat (0x4E00 + i)

/-- The pointer to the `i`-th definition of a chain. -/
def chainPointer (i : Nat) : String :=
  "#/definitions/" ++ String.singleton (chainKey i)

/-- The `i`-th of the definitions that lead to the `n`-th. -/
def chainLink (n i : Nat) : Value :=
  if i < n then referTo (chainPointer (i + 1)) else .object [("type", .text "string")]

/-- A document with a chain of definitions. -/
def chain (n : Nat) : Value :=
  .object [("definitions", .object
    ((List.range (n + 1)).map fun i => (String.singleton (chainKey i), chainLink n i)))]

section Chain

variable {n i : Nat}

theorem chainKey_toNat (hi : i ≤ 2000) : (chainKey i).toNat = 0x4E00 + i := by
  have hvalid : (0x4E00 + i).isValidChar := .inl (by omega)
  unfold chainKey Char.ofNat
  rw [dif_pos hvalid]
  rfl

theorem chainKey_inj {j : Nat} (hi : i ≤ 2000) (hj : j ≤ 2000) (h : chainKey i = chainKey j) :
    i = j := by
  have hnat := congrArg Char.toNat h
  rw [chainKey_toNat hi, chainKey_toNat hj] at hnat
  omega

theorem segments?_chainPointer (hi : i ≤ 2000) :
    Pointer.segments? (chainPointer i)
      = some ["definitions", String.singleton (chainKey i)] := by
  have hslash : chainKey i ≠ '/' := fun h => by
    have hnat := congrArg Char.toNat h
    rw [chainKey_toNat hi, show '/'.toNat = 47 from rfl] at hnat
    omega
  simp [chainPointer, Pointer.segments?, Text.split, Pointer.unescape, hslash]

theorem follow_chainPointer (hn : n ≤ 2000) (hi : i ≤ n) :
    Pointer.follow (chain n) (chainPointer i) = .ok (chainLink n i) := by
  have hfind := Ordered.find?_indexed (fun j => String.singleton (chainKey j)) (chainLink n)
    (List.mem_range.2 (Nat.lt_succ_of_le hi)) fun j hj hkey => by
      rw [List.mem_range] at hj
      exact chainKey_inj (by omega) (by omega) (by simpa using hkey)
  rw [← Entries.find?_object] at hfind
  rw [Pointer.follow, segments?_chainPointer (by omega)]
  have hdefinitions : Pointer.step (chain n) "definitions" = .ok (.ok (.object
      ((List.range (n + 1)).map fun j => (String.singleton (chainKey j), chainLink n j)))) := rfl
  have hlink : Pointer.step (.object ((List.range (n + 1)).map fun j =>
      (String.singleton (chainKey j), chainLink n j))) (String.singleton (chainKey i))
        = .ok (.ok (chainLink n i)) := by
    simp only [Pointer.step, Value.object, Entries.find?, hfind]
  simp only [Pointer.walk, hdefinitions, hlink, Outcome.ok_bind]

theorem references_chainLink :
    references (chainLink n i) = if i < n then [.text (chainPointer (i + 1))] else [] := by
  unfold chainLink
  split
  · rfl
  · rfl

/-- The references of a chain are the pointers to all its definitions but the first. -/
theorem mem_references_chain {ref : Value} (h : ref ∈ references (chain n)) :
    ∃ j < n, ref = .text (chainPointer (j + 1)) := by
  rcases mem_references_entry.1 h with htop | ⟨e, he, href⟩
  · cases htop
  · rw [List.mem_singleton.1 he] at href
    rcases mem_references_entry.1 href with hkey | ⟨e, he, href⟩
    · -- a single character is not the key of a reference
      obtain ⟨⟨k, v⟩, hk, heq⟩ := List.mem_map.1 (Ordered.mem_of_find? (Scalar.rigid_text _) hkey)
      obtain ⟨j, -, hj⟩ := List.mem_map.1 hk
      cases hj
      have hlength := congrArg String.length (Scalar.text.inj (congrArg Prod.fst heq))
      rw [String.length_singleton] at hlength
      cases hlength
    · obtain ⟨⟨k, v⟩, hk, rfl⟩ := List.mem_map.1 he
      obtain ⟨j, -, hj⟩ := List.mem_map.1 hk
      cases hj
      rw [references_chainLink] at href
      split at href
      · next hlt => exact ⟨j, hlt, List.mem_singleton.1 href⟩
      · cases href

/-- A value that refers to the start of a chain, with the chain, refers to its definitions. -/
theorem mem_references_chainLink {ref : Value} (hv : references v = references (chainLink n 0))
    (h : ref ∈ references v ++ references (chain n)) :
    ∃ j < n, ref = .text (chainPointer (j + 1)) := by
  rcases List.mem_append.1 h with h | h
  · rw [hv, references_chainLink] at h
    split at h
    · next hlt => exact ⟨0, hlt, List.mem_singleton.1 h⟩
    · cases h
  · exact mem_references_chain h

theorem chain_resolvable (hn : n ≤ 2000) : Resolvable (chain n) (chainLink n 0) := by
  refine .of_references fun ref href => ?_
  obtain ⟨j, hj, rfl⟩ := mem_references_chainLink rfl href
  exact ⟨_, follow_chainPointer hn hj⟩

/-- The number of the definition that the pointer leads to, from some number on. -/
def chainRank (ref : Value) : Nat :=
  match ref with
  | .text s => (s.toList.getLastD ' ').toNat
  | _ => 0

theorem chainRank_chainPointer (hi : i ≤ 2000) :
    chainRank (.text (chainPointer i)) = 0x4E00 + i := by
  have hlast : (chainPointer i).toList.getLastD ' ' = chainKey i := by
    simp [chainPointer]
  rw [chainRank, hlast, chainKey_toNat hi]

theorem chain_acyclic (hn : n ≤ 2000) (hv : references v = references (chainLink n 0)) :
    Acyclic (chain n) v := by
  refine .of_rank (fun ref => 0x4E00 + 2000 - chainRank ref) fun ref href ref' href' => ?_
  obtain ⟨j, hj, rfl⟩ := mem_references_chainLink hv href
  rw [onward, Pointer.followValue, follow_chainPointer hn hj] at href'
  simp only [references_chainLink] at href'
  split at href'
  · next hlt =>
      rw [List.mem_singleton.1 href', chainRank_chainPointer (by omega),
        chainRank_chainPointer (by omega)]
      omega
  · cases href'

/-- Before the end of the chain is reached the steps run out. -/
theorem inlineWith_chain (hn : n ≤ 2000) (hroom : i + room ≤ n + 1)
    (hseen : ∀ r ∈ seen, ∃ j ≤ i, r = chainPointer j) :
    inlineWith (chain n) room seen (chainLink n i) = .error (.defect .endless) := by
  induction room generalizing i seen with
  | zero => rfl
  | succ room ih =>
      cases room with
      | zero =>
          refine inlineWith_one fun hatom => ?_
          unfold chainLink at hatom
          split at hatom
          · cases hatom
          · cases hatom
      | succ room =>
          have hnew : chainPointer (i + 1) ∉ seen := fun hmem => by
            obtain ⟨j, hj, heq⟩ := hseen _ hmem
            have hkey : chainKey (i + 1) = chainKey j := by simpa [chainPointer] using heq
            have hnum := chainKey_inj (by omega) (by omega) hkey
            omega
          rw [chainLink, if_pos (by omega), referTo, Value.object, inlineWith_target rfl hnew,
            follow_chainPointer hn (by omega)]
          refine ih (by omega) fun r hr => ?_
          rcases List.mem_cons.1 hr with rfl | hr
          · exact ⟨i + 1, Nat.le_refl _, rfl⟩
          · obtain ⟨j, hj, rfl⟩ := hseen r hr
            exact ⟨j, by omega, rfl⟩

end Chain

/-- A chain of a thousand definitions has no cycle, every reference in it can be followed, and the
steps run out on the way. And a reference inside a pair stays as it is, although it can be followed
and lies on no cycle. -/
theorem long_chain_and_pair_not_inlined :
    (Resolvable (chain 1000) (chainLink 1000 0) ∧ Acyclic (chain 1000) (chainLink 1000 0) ∧
      inline (chainLink 1000 0) (chain 1000) = .error (.defect .endless)) ∧
    Resolvable pets (referTo "#/definitions/Owner") ∧
      Acyclic pets (referTo "#/definitions/Owner") ∧
      inline (.list [.pair (.text "a") (referTo "#/definitions/Owner")]) pets
        = .ok (.list [.pair (.text "a") (referTo "#/definitions/Owner")]) := by
  have howner : Resolvable pets (referTo "#/definitions/Owner") :=
    .of_references fun ref href => Outcome.exists_of_toBool
      ((by decide +kernel : ∀ ref ∈ references (referTo "#/definitions/Owner") ++ references pets,
        (Pointer.followValue pets ref).toBool = true) ref href)
  have hacyclic : Acyclic pets (referTo "#/definitions/Owner") :=
    .of_rank (fun _ => 0) (by decide +kernel)
  have hchain : inline (chainLink 1000 0) (chain 1000) = .error (.defect .endless) :=
    inlineWith_chain (by omega) (by decide) fun r hr => absurd hr List.not_mem_nil
  exact ⟨⟨chain_resolvable (by omega), chain_acyclic (by omega) rfl, hchain⟩, howner, hacyclic,
    by decide +kernel⟩

end ApiRouter.Reference

import ApiRouter.Reference
import ApiRouter.Proofs.Outcome
import ApiRouter.Proofs.Ordered

set_option autoImplicit false

/-! # What references lead to

A mapping with a `$ref` stands for the place that its pointer names, and its other entries do not
count. Reading a value therefore goes into the parts of collections and through references. A
pointer lies on a cycle when reading its own target comes to it again.

Two readings are told apart: the *parts* of a value are what is written in it, the values that a
reading *visits* are also what its references lead to. -/

namespace ApiRouter.Reference

/-! ## Parts and visits -/

/-- Values that no reading enters: those without parts, and pairs and sets. -/
def IsAtom : Value → Prop
  | .scalar _ | .pair _ _ | .set _ => True
  | .list _ | .map _ | .endless => False

/-- `Part v w`: the value `w` is written in `v`, and not beside a `$ref`. -/
inductive Part : Value → Value → Prop where
  | whole (v : Value) : Part v v
  | item {items : List Value} {v w : Value} : v ∈ items → Part v w → Part (.list items) w
  | entry {entries : Entries} {k : Scalar} {v w : Value} :
      Entries.find? entries "$ref" = none → (k, v) ∈ entries → Part v w → Part (.map entries) w

/-- `Visits root v w`: reading `v`, with its references into `root`, comes to `w`. -/
inductive Visits (root : Value) : Value → Value → Prop where
  | here (v : Value) : Visits root v v
  | item {items : List Value} {v w : Value} :
      v ∈ items → Visits root v w → Visits root (.list items) w
  | entry {entries : Entries} {k : Scalar} {v w : Value} :
      Entries.find? entries "$ref" = none → (k, v) ∈ entries → Visits root v w →
        Visits root (.map entries) w
  | target {entries : Entries} {r : String} {t w : Value} :
      Entries.find? entries "$ref" = some (.text r) → Pointer.follow root r = .ok t →
        Visits root t w → Visits root (.map entries) w

/-- No mapping in the value is a reference. -/
def RefFree (v : Value) : Prop :=
  ∀ entries, Part v (.map entries) → Entries.find? entries "$ref" = none

/-- Reading the value comes to a reference with this pointer. -/
def Reaches (root v : Value) (r : String) : Prop :=
  ∃ entries, Visits root v (.map entries) ∧ Entries.find? entries "$ref" = some (.text r)

/-- Following references from the target of the pointer leads back to the pointer. -/
def OnCycle (root : Value) (r : String) : Prop :=
  ∃ t, Pointer.follow root r = .ok t ∧ Reaches root t r

/-- Every reference that reading the value comes to is a text that names a place. -/
def Resolvable (root v : Value) : Prop :=
  ∀ entries ref, Visits root v (.map entries) → Entries.find? entries "$ref" = some ref →
    ∃ r t, ref = .text r ∧ Pointer.follow root r = .ok t

/-- No pointer that reading the value comes to lies on a cycle. -/
def Acyclic (root v : Value) : Prop :=
  ∀ r, Reaches root v r → ¬ OnCycle root r

variable {root v w x : Value}

theorem Visits.trans (h : Visits root v w) (h' : Visits root w x) : Visits root v x := by
  induction h with
  | here => exact h'
  | item hv _ ih => exact .item hv (ih h')
  | entry href hv _ ih => exact .entry href hv (ih h')
  | target href ht _ ih => exact .target href ht (ih h')

theorem Reaches.of_visits {r : String} (h : Visits root v w) (hr : Reaches root w r) :
    Reaches root v r := by
  obtain ⟨entries, hw, href⟩ := hr
  exact ⟨entries, h.trans hw, href⟩

theorem Resolvable.of_visits (h : Resolvable root v) (hv : Visits root v w) : Resolvable root w :=
  fun entries ref hw href => h entries ref (hv.trans hw) href

theorem Acyclic.of_visits (h : Acyclic root v) (hv : Visits root v w) : Acyclic root w :=
  fun r hr => h r (hr.of_visits hv)

/-! ## Free of references -/

theorem RefFree.item {items : List Value} (h : RefFree (.list items)) (hv : v ∈ items) :
    RefFree v :=
  fun entries hpart => h entries (.item hv hpart)

theorem RefFree.entry {entries : Entries} {k : Scalar} (h : RefFree (.map entries))
    (hv : (k, v) ∈ entries) : RefFree v :=
  fun inner hpart => h inner (.entry (h entries (.whole _)) hv hpart)

/-! ## Places

The place that a pointer names is written in the document, though possibly beside a `$ref`. -/

/-- What holds of a document, and passes to the parts of collections, holds of every place. -/
theorem follow_induction (motive : Value → Prop)
    (hitem : ∀ items v, motive (.list items) → v ∈ items → motive v)
    (hentry : ∀ entries k v, motive (.map entries) → (k, v) ∈ entries → motive v)
    (hroot : motive root) {r : String} {t : Value} (h : Pointer.follow root r = .ok t) :
    motive t := by
  have hstep : ∀ node segment next, motive node →
      Pointer.step node segment = .ok (.ok next) → motive next := by
    intro node segment next hnode h
    unfold Pointer.step at h
    split at h
    · split at h
      · next hv =>
          cases h
          exact hentry _ _ _ hnode (Ordered.mem_of_find? (Scalar.rigid_text segment) hv)
      · cases h
    · split at h
      · cases h
      · split at h
        · cases h
        · split at h
          · next hv =>
              cases h
              exact hitem _ _ hnode (List.mem_of_getElem? hv)
          · cases h
    · cases h
    · cases h
  have hwalk : ∀ segments node, motive node →
      Pointer.walk r node segments = .ok t → motive t := by
    intro segments
    induction segments with
    | nil =>
        intro node hnode h
        cases h
        exact hnode
    | cons segment rest ih =>
        intro node hnode h
        obtain ⟨taken, htaken, h⟩ := Outcome.bind_eq_ok.1 h
        cases taken with
        | ok next => exact ih next (hstep node segment next hnode htaken) h
        | error o => cases h
  unfold Pointer.follow at h
  split at h
  · next segments _ => exact hwalk segments root hroot h
  · cases h

/-! ## Measures -/

mutual

/-- The number of collections that lie around the innermost part of a value. -/
def height : Value → Nat
  | .list items => heightOfItems items + 1
  | .map entries => heightOfEntries entries + 1
  | .scalar _ | .pair _ _ | .set _ | .endless => 0

def heightOfItems : List Value → Nat
  | [] => 0
  | v :: vs => max (height v) (heightOfItems vs)

def heightOfEntries : Entries → Nat
  | [] => 0
  | (_, v) :: es => max (height v) (heightOfEntries es)

end

mutual

/-- What stands under a `$ref` anywhere in a value, also beside another `$ref`. -/
def references : Value → List Value
  | .list items => referencesOfItems items
  | .map entries => (Entries.find? entries "$ref").toList ++ referencesOfEntries entries
  | .scalar _ | .pair _ _ | .set _ | .endless => []

def referencesOfItems : List Value → List Value
  | [] => []
  | v :: vs => references v ++ referencesOfItems vs

def referencesOfEntries : Entries → List Value
  | [] => []
  | (_, v) :: es => references v ++ referencesOfEntries es

end

theorem height_le_of_mem {items : List Value} (hv : v ∈ items) :
    height v ≤ heightOfItems items := by
  induction items with
  | nil => cases hv
  | cons first rest ih =>
      rw [heightOfItems]
      rcases List.mem_cons.1 hv with rfl | hv
      · exact Nat.le_max_left ..
      · exact Nat.le_trans (ih hv) (Nat.le_max_right ..)

theorem height_le_of_entry {entries : Entries} {k : Scalar} (hv : (k, v) ∈ entries) :
    height v ≤ heightOfEntries entries := by
  induction entries with
  | nil => cases hv
  | cons first rest ih =>
      rw [heightOfEntries]
      rcases List.mem_cons.1 hv with rfl | hv
      · exact Nat.le_max_left ..
      · exact Nat.le_trans (ih hv) (Nat.le_max_right ..)

theorem mem_references_item {items : List Value} {ref : Value} :
    ref ∈ references (.list items) ↔ ∃ v ∈ items, ref ∈ references v := by
  rw [references]
  induction items with
  | nil => simp [referencesOfItems]
  | cons first rest ih => simp [referencesOfItems, ih]

theorem mem_references_entry {entries : Entries} {ref : Value} :
    ref ∈ references (.map entries) ↔
      Entries.find? entries "$ref" = some ref ∨ ∃ e ∈ entries, ref ∈ references e.2 := by
  have hentries : ref ∈ referencesOfEntries entries ↔ ∃ e ∈ entries, ref ∈ references e.2 := by
    induction entries with
    | nil => simp [referencesOfEntries]
    | cons first rest ih => simp [referencesOfEntries, ih]
  rw [references, List.mem_append, Option.mem_toList, hentries]

theorem references_of_mem {items : List Value} (hv : v ∈ items) :
    references v ⊆ references (.list items) :=
  fun _ href => mem_references_item.2 ⟨v, hv, href⟩

theorem references_of_entry {entries : Entries} {k : Scalar} (hv : (k, v) ∈ entries) :
    references v ⊆ references (.map entries) :=
  fun _ href => mem_references_entry.2 (.inr ⟨(k, v), hv, href⟩)

theorem mem_references_self {entries : Entries} {ref : Value}
    (href : Entries.find? entries "$ref" = some ref) : ref ∈ references (.map entries) :=
  mem_references_entry.2 (.inl href)

theorem height_le_of_follow {r : String} {t : Value} (h : Pointer.follow root r = .ok t) :
    height t ≤ height root := by
  refine follow_induction (fun v => height v ≤ height root) ?_ ?_ (Nat.le_refl _) h
  · intro items v hitems hv
    rw [height] at hitems
    have := height_le_of_mem hv
    omega
  · intro entries k v hentries hv
    rw [height] at hentries
    have := height_le_of_entry hv
    omega

theorem references_of_follow {r : String} {t : Value} (h : Pointer.follow root r = .ok t) :
    references t ⊆ references root := by
  refine follow_induction (fun v => references v ⊆ references root) ?_ ?_ (List.Subset.refl _) h
  · intro items v hitems hv
    exact List.Subset.trans (references_of_mem hv) hitems
  · intro entries k v hentries hv
    exact List.Subset.trans (references_of_entry hv) hentries

/-! ## Documents that are written down

What every reference written in a value and in the document has, the references that reading the
value comes to have. -/

theorem references_of_visits {known : List Value} (h : Visits root v w)
    (hroot : references root ⊆ known) (hv : references v ⊆ known) : references w ⊆ known := by
  induction h with
  | here => exact hv
  | item hmem _ ih => exact ih (List.Subset.trans (references_of_mem hmem) hv)
  | entry _ hmem _ ih => exact ih (List.Subset.trans (references_of_entry hmem) hv)
  | target _ ht _ ih => exact ih (List.Subset.trans (references_of_follow ht) hroot)

/-- When every reference that is written down names a place, reading comes to such ones only. -/
theorem Resolvable.of_references
    (h : ∀ ref ∈ references v ++ references root, ∃ t, Pointer.followValue root ref = .ok t) :
    Resolvable root v := by
  intro entries ref hvisits href
  have hknown := references_of_visits hvisits (List.subset_append_right (references v) _)
    (List.subset_append_left _ _)
  obtain ⟨t, ht⟩ := h ref (hknown (mem_references_self href))
  unfold Pointer.followValue at ht
  split at ht
  · next r => exact ⟨r, t, rfl, ht⟩
  · cases ht

/-- The references written in the place that a reference names. -/
def onward (root ref : Value) : List Value :=
  match Pointer.followValue root ref with
  | .ok t => references t
  | .error _ => []

/-- When references can be ranked so that each leads to lower ones only, none lies on a cycle. -/
theorem Acyclic.of_rank (rank : Value → Nat)
    (h : ∀ ref ∈ references v ++ references root, ∀ ref' ∈ onward root ref,
      rank ref' < rank ref) : Acyclic root v := by
  have hplace {r : String} {t : Value} (ht : Pointer.follow root r = .ok t) :
      onward root (.text r) = references t := by
    rw [onward, Pointer.followValue, ht]
  have hknown {w : Value} (hw : Visits root v w) :
      references w ⊆ references v ++ references root :=
    references_of_visits hw (List.subset_append_right _ _) (List.subset_append_left _ _)
  -- from a place whose references rank below a bound, reading comes to such references only
  have hbelow {w x : Value} (hx : Visits root w x) (bound : Nat) (hw : Visits root v w)
      (hbound : ∀ ref ∈ references w, rank ref < bound) :
      ∀ ref ∈ references x, rank ref < bound := by
    induction hx with
    | here => exact hbound
    | item hmem _ ih =>
        exact ih (hw.trans (.item hmem (.here _))) fun ref href =>
          hbound ref (references_of_mem hmem href)
    | entry hnone hmem _ ih =>
        exact ih (hw.trans (.entry hnone hmem (.here _))) fun ref href =>
          hbound ref (references_of_entry hmem href)
    | target href ht _ ih =>
        refine ih (hw.trans (.target href ht (.here _))) fun ref' href' => ?_
        rw [← hplace ht] at href'
        have hlower := h _ (hknown hw (mem_references_self href)) ref' href'
        exact Nat.lt_trans hlower (hbound _ (mem_references_self href))
  rintro r ⟨entries, hentries, href⟩ ⟨t, ht, inner, hinner, href'⟩
  have hlower := h _ (hknown hentries (mem_references_self href))
  rw [hplace ht] at hlower
  have hself := hbelow hinner (rank (.text r)) (hentries.trans (.target href ht (.here t))) hlower
  exact absurd (hself _ (mem_references_self href')) (Nat.lt_irrefl _)

/-! ## Inlined values -/

/-- `Inlines root v w`: the value `w` is `v` with every reference replaced by its target, inlined in
its turn. Everything else stays as it is and where it is. -/
inductive Inlines (root : Value) : Value → Value → Prop where
  | atom {v : Value} : IsAtom v → Inlines root v v
  | list {items inlined : List Value} :
      items.length = inlined.length → (∀ p ∈ items.zip inlined, Inlines root p.1 p.2) →
        Inlines root (.list items) (.list inlined)
  | map {entries inlined : Entries} :
      Entries.find? entries "$ref" = none → Ordered.keys entries = Ordered.keys inlined →
        (∀ p ∈ entries.zip inlined, Inlines root p.1.2 p.2.2) →
          Inlines root (.map entries) (.map inlined)
  | target {entries : Entries} {r : String} {t w : Value} :
      Entries.find? entries "$ref" = some (.text r) → Pointer.follow root r = .ok t →
        Inlines root t w → Inlines root (.map entries) w

end ApiRouter.Reference

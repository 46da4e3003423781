import ApiRouter.Json.Reader
import ApiRouter.Proofs.Declarations
import ApiRouter.Proofs.Keys
import ApiRouter.Value.Mapping

set_option autoImplicit false

/-! # What is found in layers

One mapping laid on top of another: under a key lies what the top one has there, on what the bottom
one has. So a key of a group that both mappings hold is looked up in the group of the top one, and
when it is not there in that of the bottom one. What is no mapping hides all below it, so a field
that is none has the value of the highest layer that has one.

A mapping that is laid on another must hold each key once. The mappings that a JSON text denotes do
so, at every depth. -/

namespace ApiRouter

namespace Value

/-- A value laid on another, where there are such. -/
def laid (top base : Option Value) : Option Value :=
  match top with
  | none => base
  | some v => some (mergeOnto base v)

/-- Values laid on one another, the highest first. -/
def overlaid : (layers : List (Option Value)) → Option Value
  | [] => none
  | top :: rest => laid top (overlaid rest)

@[simp]
theorem laid_none_left (base : Option Value) : laid none base = base := rfl

/-- What is no mapping hides what it is laid on. -/
theorem mergeOnto_of_not_map {v : Value} (h : v.isMap = false) (old : Option Value) :
    mergeOnto old v = v := by
  cases v with
  | map m => cases h
  | _ => rw [mergeOnto]

theorem mergeOnto_none (v : Value) : mergeOnto none v = v := by
  cases v with
  | map m =>
      rw [mergeOnto]
      rintro old ⟨⟩
  | _ => rw [mergeOnto]

@[simp]
theorem laid_none_right (top : Option Value) : laid top none = top := by
  cases top with
  | none => rfl
  | some v => rw [laid, mergeOnto_none]

/-- A mapping stays one on whatever it is laid. -/
theorem exists_mergeOnto_map (old : Option Value) (m : Entries) :
    ∃ n, mergeOnto old (.map m) = .map n := by
  rw [mergeOnto.eq_def]
  simp only
  split
  · exact ⟨_, rfl⟩
  · exact ⟨_, rfl⟩

theorem laid_text (s : String) (base : Option Value) :
    laid (some (.text s)) base = some (.text s) :=
  congrArg some (mergeOnto_of_not_map rfl base)

end Value

namespace Entries

/-- What is found in a mapping laid on another. The one on top holds each key once, for of several
    values under a key all would be laid there. -/
theorem find?_merge_key {top : Entries} (h : Ordered.Distinct top) (base : Entries) (q : Scalar) :
    Ordered.find? (merge base top) q
      = Value.laid (Ordered.find? top q) (Ordered.find? base q) := by
  induction top generalizing base with
  | nil =>
      rw [merge]
      rfl
  | cons e rest ih =>
      obtain ⟨k, v⟩ := e
      rw [merge, ih h.tail, Ordered.find?_insert_equal, Ordered.find?]
      split
      · next hk =>
          -- nothing further is laid under this key
          rw [h.find?_tail_equal hk, Ordered.find?_congr hk]
          rfl
      · rfl

theorem find?_merge {top : Entries} (h : Ordered.Distinct top) (base : Entries) (q : String) :
    find? (merge base top) q = Value.laid (find? top q) (find? base q) :=
  find?_merge_key h base (.text q)

/-! ## Groups -/

/-- What a group has under a key. -/
def member? (group : Option Value) (q : String) : Option Value :=
  match group with
  | some (.map m) => find? m q
  | _ => none

/-- There is nothing, or a mapping that holds each key once. -/
def IsGroup (group : Option Value) : Prop :=
  ∀ v, group = some v → ∃ m, v = .map m ∧ Ordered.Distinct m

theorem isGroup_none : IsGroup none :=
  fun _ h => nomatch h

/-- A member of a group that is laid on another is the member of the one laid on that of the
    other. -/
theorem member?_laid {top : Option Value} (htop : IsGroup top) (base : Option Value) (q : String) :
    member? (Value.laid top base) q = Value.laid (member? top q) (member? base q) := by
  cases top with
  | none => rfl
  | some v =>
      obtain ⟨t, rfl, hdistinct⟩ := htop v rfl
      cases base with
      | none => simp only [Value.laid_none_right, member?]
      | some w =>
          cases w with
          | map b =>
              rw [Value.laid, Value.mergeOnto]
              exact find?_merge hdistinct b q
          | _ =>
              -- what is no mapping has no members, and is hidden by one
              rw [Value.laid, Value.mergeOnto]
              · exact (Value.laid_none_right _).symm
              · rintro old ⟨⟩

theorem member?_overlaid {layers : List (Option Value)} (h : ∀ g ∈ layers, IsGroup g)
    (q : String) :
    member? (Value.overlaid layers) q = Value.overlaid (layers.map (member? · q)) := by
  induction layers with
  | nil => rfl
  | cons top rest ih =>
      rw [List.forall_mem_cons] at h
      rw [Value.overlaid, member?_laid h.1, ih h.2]
      rfl

end Entries

/-! ## Fields -/

namespace Field

variable {α : Type} {read : Value → Checked α} {default a : α}

/-- A value as `read` takes it, or the default when there is none. -/
def orDefault (read : Value → Checked α) (default : α) : Option Value → Checked α
  | some v => read v
  | none => .ok default

/-- What the highest of some layers has, as `read` takes it, or the default when none has anything;
    the highest layer comes first. -/
def ofLayers (read : Value → Checked α) (default : α) (layers : List (Option Value)) : Checked α :=
  orDefault read default (layers.findSome? id)

theorem withDefault_eq_ok {m : Entries} {name : String} :
    withDefault m name default read = .ok a ↔
      orDefault read default (Entries.find? m name) = .ok a := by
  unfold withDefault
  split
  · next hfind => rw [hfind, Checked.under_eq_ok, orDefault]
  · next hfind => rw [hfind, orDefault]

/-- A field of a mapping that is laid together from layers has the value of the highest layer that
    has one, unless it may be a mapping itself. -/
theorem ofLayers_of_overlaid (hmap : ∀ m, read (.map m) ≠ .ok a) {layers : List (Option Value)}
    (h : orDefault read default (Value.overlaid layers) = .ok a) :
    ofLayers read default layers = .ok a := by
  induction layers with
  | nil => exact h
  | cons top rest ih =>
      cases top with
      | none => exact ih h
      | some v =>
          cases v with
          | map m =>
              obtain ⟨n, hn⟩ := Value.exists_mergeOnto_map (Value.overlaid rest) m
              rw [Value.overlaid, Value.laid, hn] at h
              exact absurd h (hmap n)
          | _ =>
              rw [Value.overlaid, Value.laid, Value.mergeOnto_of_not_map rfl] at h
              exact h

end Field

/-! ## Values of JSON texts -/

namespace Json

/-- A value that stands somewhere in a JSON text. -/
def IsRead (v : Value) : Prop :=
  ∃ depth fuel cs rest, readValue depth fuel cs = .ok (v, rest)

theorem isRead_of_readEntries {depth fuel : Nat} {cs rest : List Char} {es : Entries}
    (h : readEntries depth fuel cs = .ok (es, rest)) :
    (∀ k ∈ Ordered.keys es, ∃ s, k = .text s) ∧ ∀ v ∈ Ordered.values es, IsRead v := by
  induction fuel generalizing cs es with
  | zero =>
      rw [readEntries] at h
      cases h
  | succ fuel ih =>
      rw [readEntries.eq_def] at h
      simp only at h
      split at h
      · obtain ⟨⟨k, after⟩, -, h⟩ := Outcome.bind_eq_ok.1 h
        simp only at h
        split at h
        · next rest₁ =>
          obtain ⟨⟨v, rest₂⟩, hv, h⟩ := Outcome.bind_eq_ok.1 h
          have hread : IsRead v := ⟨depth, fuel, _, _, hv⟩
          simp only at h
          split at h
          · cases h
            exact ⟨List.forall_mem_singleton.2 ⟨k, rfl⟩, List.forall_mem_singleton.2 hread⟩
          · obtain ⟨⟨more, rest₃⟩, hmore, h⟩ := Outcome.bind_eq_ok.1 h
            cases h
            obtain ⟨hkeys, hvalues⟩ := ih hmore
            exact ⟨List.forall_mem_cons.2 ⟨⟨k, rfl⟩, hkeys⟩,
              List.forall_mem_cons.2 ⟨hread, hvalues⟩⟩
          · cases h
        · cases h
      · cases h

theorem isMap_of_readNumber? {negative : Bool} {cs rest : List Char} {v : Value}
    (h : readNumber? negative cs = some (.ok (v, rest))) : v.isMap = false := by
  obtain ⟨⟨whole, after⟩, -, h⟩ := Option.map_eq_some_iff.1 h
  simp only at h
  split at h
  · split at h
    · cases h
    · cases h
      rfl
  · cases h
    rfl
  · cases h
    rfl

/-- What has no parts is no mapping. -/
theorem isMap_of_readAtom {cs rest : List Char} {v : Value} (h : readAtom cs = .ok (v, rest)) :
    v.isMap = false := by
  have hnumber {negative : Bool} {ds : List Char}
      (h : (readNumber? negative ds).getD (refuse .expectingValue cs) = .ok (v, rest)) :
      v.isMap = false := by
    cases hread : readNumber? negative ds with
    | none =>
        rw [hread] at h
        cases h
    | some result =>
        rw [hread, Option.getD_some] at h
        exact isMap_of_readNumber? (hread.trans (congrArg some h))
  unfold readAtom at h
  split at h
  · cases h
    rfl
  · split at h
    · cases h
      rfl
    · split at h
      · cases h
        rfl
      · split at h
        · cases h
          rfl
        · split at h
          · cases h
            rfl
          · split at h
            · cases h
              rfl
            · split at h
              · exact hnumber h
              · exact hnumber h

/-- A mapping in a JSON text holds each key once, its keys are texts, and its values stand in the
    text as well. -/
theorem IsRead.map {es : Entries} (h : IsRead (.map es)) :
    Ordered.Distinct es ∧ (∀ k ∈ Ordered.keys es, ∃ s, k = .text s) ∧
      ∀ v ∈ Ordered.values es, IsRead v := by
  obtain ⟨depth, fuel, cs, rest, h⟩ := h
  cases fuel with
  | zero =>
      rw [readValue] at h
      cases h
  | succ fuel =>
      rw [readValue.eq_def] at h
      simp only at h
      split at h
      · obtain ⟨⟨s, after⟩, -, h⟩ := Outcome.bind_eq_ok.1 h
        cases h
      · split at h
        · cases h
        · split at h
          · cases h
          · obtain ⟨⟨items, after⟩, -, h⟩ := Outcome.bind_eq_ok.1 h
            cases h
      · split at h
        · cases h
        · split at h
          · cases h
            exact ⟨List.Pairwise.nil, List.forall_mem_nil _, List.forall_mem_nil _⟩
          · obtain ⟨⟨entries, after⟩, hentries, h⟩ := Outcome.bind_eq_ok.1 h
            obtain ⟨hkeys, hvalues⟩ := isRead_of_readEntries hentries
            cases h
            exact ⟨Ordered.distinct_ofList _, fun k hk => hkeys k (Ordered.mem_keys_ofList hk),
              fun v hv => hvalues v (Ordered.mem_values_ofList hv)⟩
      · cases isMap_of_readAtom h

/-- The value of a whole text stands in the text. -/
theorem isRead_of_read {text : String} {v : Value} (h : read text = .ok v) : IsRead v := by
  have hall : readAll text.toList = .ok v := by
    unfold read at h
    simp only at h
    split at h
    · next hread => rw [hread, ← Except.ok.inj h]
    · cases h
    · cases h
    · cases h
  unfold readAll at hall
  split at hall
  · cases hall
  · obtain ⟨⟨w, rest⟩, hvalue, hall⟩ := Outcome.bind_eq_ok.1 hall
    simp only at hall
    split at hall
    · cases hall
      exact ⟨_, _, _, _, hvalue⟩
    · cases hall

end Json

end ApiRouter

import ApiRouter.Proofs.Evaluation

set_option autoImplicit false

/-! # Schemas that come to the same findings

When the keywords of two schemas agree they come to the same findings, however many steps remain;
a reference comes to the findings of its target, after a step more. What a plain value is taken for
then agrees as soon as its parts do. -/

namespace ApiRouter.Schema

/-! ## Schemas that come to the same findings -/

variable {scope scope' : Scope} {m m' : Entries} {v w : Value} {room room' : Nat}

/-- `Schematic scope v w`: as schemas, `v` and `w` come to the same findings; `v` has its references
in `scope`, and `w` may take as many steps or more. -/
inductive Schematic (scope : Scope) : Value → Value → Prop where
  | maps {m m' : Entries} (hm : isUndeclared m = true) (hm' : isUndeclared m' = true)
      (hshowable : (Value.map m).isShowable = (Value.map m').isShowable)
      (hfinds : ∀ {room room' : Nat}, room ≤ room' → ∀ (scope' : Scope) (subject : Value),
        (finds room scope m subject).Agrees (finds room' scope' m' subject)) :
      Schematic scope (.map m) (.map m')
  | same {v : Value} (hmap : v.isMap = false) : Schematic scope v v

/-- Schemas that come to the same findings do so whichever way they are entered. -/
theorem Schematic.evaluate (h : Schematic scope v w) (hroom : room ≤ room') (entry : Entry)
    (scope' : Scope) (subject : Value) :
    (evaluate room entry ⟨Rules.forMessages, scope⟩ v subject).Agrees
      (evaluate room' entry ⟨Rules.forMessages, scope'⟩ w subject) := by
  by_cases hshort : room < entry.cost
  · rw [evaluate_short hshort]
    exact .stop_endless _
  · obtain ⟨left, rfl⟩ := Nat.exists_eq_add_of_le' (Nat.le_of_not_lt hshort)
    obtain ⟨left', rfl⟩ := Nat.exists_eq_add_of_le' (Nat.le_trans (Nat.le_of_not_lt hshort) hroom)
    cases h with
    | maps hm hm' _ hfinds =>
        rw [evaluate_map hm, evaluate_map hm']
        exact hfinds (Nat.le_of_add_le_add_right hroom) scope' subject
    | same hmap => exact .of_eq (evaluate_of_not_map hmap entry left left' subject)

theorem Schematic.alike (h : Schematic scope v w) (hroom : room ≤ room') (scope' : Scope) :
    Alike ⟨⟨Rules.forMessages, scope⟩, Schema.evaluate room⟩
      ⟨⟨Rules.forMessages, scope'⟩, Schema.evaluate room'⟩ v w where
  part := h.evaluate hroom .part scope'
  verdict := h.evaluate hroom .verdict scope'
  shape := by
    cases h with
    | maps => exact .maps ..
    | same hmap => exact .same hmap
  showable := by
    cases h with
    | maps _ _ hshowable => exact hshowable
    | same => rfl

theorem Schematic.isMap (h : Schematic scope v w) : v.isMap = w.isMap := by
  cases h with
  | maps => rfl
  | same => rfl

/-- Without references, schemas whose keywords agree come to the same findings. -/
theorem Schematic.of_keywords (href : Entries.find? m "$ref" = none)
    (href' : Entries.find? m' "$ref" = none) (hm : isUndeclared m = true)
    (hm' : isUndeclared m' = true)
    (hshowable : (Value.map m).isShowable = (Value.map m').isShowable)
    (h : KeywordsAlike (Schematic scope) m m') : Schematic scope (.map m) (.map m') := by
  refine .maps hm hm' hshowable fun {room room'} hroom scope' subject => ?_
  have hkeywords := KeywordsAlike.mono (fun v w hvw => Schematic.alike hvw hroom scope') h
  -- the keyword of references would look at the schema behind it, which is not given here
  have hkey : ∀ e ∈ m, e.1 ≠ .text "$ref" := by
    rintro ⟨k, v⟩ he rfl
    have hhas : Entries.has m "$ref" = true := Ordered.has_eq_true.2
      ⟨_, List.mem_map_of_mem he, ((Scalar.rigid_text "$ref").beq_left _).2 rfl⟩
    rw [Entries.has_eq_isSome, href] at hhas
    cases hhas
  rw [finds_eq, finds_eq, activeKeywords_eq href, activeKeywords_eq href']
  refine .forAll ((List.forall₂_and_left m m').2 ⟨hkey, hkeywords⟩) ?_
  rintro ⟨k, v⟩ ⟨k', w⟩ ⟨hk, hsame, hvalue⟩
  cases hsame
  unfold findsAt
  cases hfind : Keyword.find? .draft4 k with
  | none => exact .refl _
  | some keyword => exact keyword_agrees (by rfl) hkeywords hk hfind v w hvalue subject

/-- A reference comes to the findings of its target. -/
theorem Schematic.of_reference {r : String} (href : Entries.find? m "$ref" = some (.text r))
    (hm : isUndeclared m = true) (hshowable : (Value.map m).isShowable = w.isShowable)
    {target : Entries} (hlookUp : scope.lookUp r = .ok (scope, .map target))
    (h : Schematic scope (.map target) w) : Schematic scope (.map m) w := by
  cases h with
  | maps htarget hm' _ hfinds =>
      refine .maps hm hm' hshowable fun {room room'} hroom scope' subject => ?_
      rw [finds_reference href, hlookUp, Evaluator.refer, Findings.withValue]
      simp only
      by_cases hshort : room < Entry.reference.cost
      · rw [evaluate_short hshort]
        exact .stop_endless _
      · obtain ⟨left, rfl⟩ := Nat.exists_eq_add_of_le' (Nat.le_of_not_lt hshort)
        rw [evaluate_map htarget]
        exact hfinds (Nat.le_trans (Nat.le_add_right ..) hroom) scope' subject
  | same hmap => cases hmap

/-! ## Values in their roles -/

/-- The parts of scalars, of sets and of mappings are scalars. -/
theorem isMap_of_mem_itemsOf (hlist : ∀ items, v ≠ .list items) (hpair : ∀ a b, v ≠ .pair a b)
    {parts : List Value} (h : itemsOf v = .ok parts) {part : Value} (hpart : part ∈ parts) :
    part.isMap = false := by
  cases v with
  | list items => exact absurd rfl (hlist items)
  | pair a b => exact absurd rfl (hpair a b)
  | map entries =>
      cases h
      obtain ⟨e, -, rfl⟩ := List.mem_map.1 hpart
      rfl
  | set members =>
      cases h
      obtain ⟨k, -, rfl⟩ := List.mem_map.1 hpart
      rfl
  | endless => cases h
  | scalar a =>
      cases a with
      | text t =>
          cases h
          obtain ⟨c, -, rfl⟩ := List.mem_map.1 hpart
          rfl
      | bytes b =>
          cases h
          obtain ⟨n, -, rfl⟩ := List.mem_map.1 hpart
          rfl
      | _ => cases h

/-- Values without parts that could differ agree with themselves part by part. -/
theorem itemsOf_self (hlist : ∀ items, v ≠ .list items) (hpair : ∀ a b, v ≠ .pair a b) :
    AgreesOn (List.Forall₂ (Schematic scope)) (itemsOf v) (itemsOf v) := by
  cases h : itemsOf v with
  | error cause => exact .failed cause
  | ok parts =>
      exact .ok (List.forall₂_same.2 fun part hpart =>
        .same (isMap_of_mem_itemsOf hlist hpair h hpart))

/-- What has no parts agrees with itself in every role. -/
theorem readsAlike_self (hmap : v.isMap = false) (hlist : ∀ items, v ≠ .list items)
    (hpair : ∀ a b, v ≠ .pair a b) (role : Role) :
    ReadsAlike (Schematic scope) v v role := by
  cases role with
  | schema => exact .same hmap
  | schemas => exact ⟨rfl, itemsOf_self hlist hpair⟩
  | items => exact .inr ⟨hmap, hmap, itemsOf_self hlist hpair⟩
  | named => exact .inr ⟨hmap, rfl⟩
  | data => rfl
  | ignored => trivial

/-- A plain list agrees with the list of what its items agree with. -/
theorem readsAlike_list {items items' : List Value} {role : Role}
    (hplain : isPlainAs (.list items) role = true)
    (hfree : isRefFree (.list items) = true → Value.list items = .list items')
    (hitems : areItemsPlain items = true → List.Forall₂ (Schematic scope) items items') :
    ReadsAlike (Schematic scope) (.list items) (.list items') role := by
  cases role with
  | schema =>
      rw [← hfree hplain]
      exact .same rfl
  | schemas => exact ⟨rfl, .ok (hitems hplain)⟩
  | items => exact .inr ⟨rfl, rfl, .ok (hitems hplain)⟩
  | named => exact .inr ⟨rfl, hfree hplain⟩
  | data => exact hfree hplain
  | ignored => trivial

/-- A plain mapping agrees with the mapping of what its entries agree with. -/
theorem readsAlike_map {role : Role} (hplain : isPlainAs (.map m) role = true)
    (hfree : isRefFree (.map m) = true → Value.map m = .map m')
    (hschema : isPlainAs (.map m) .schema = true → Schematic scope (.map m) (.map m'))
    (hnamed : areEntriesPlainAs m (fun _ => .schema) = true →
      List.Forall₂ (fun a b => a.1 = b.1 ∧ Schematic scope a.2 b.2) m m') :
    ReadsAlike (Schematic scope) (.map m) (.map m') role := by
  cases role with
  | schema => exact hschema hplain
  | schemas =>
      rw [← hfree hplain]
      exact ⟨rfl, itemsOf_self (by simp) (by simp)⟩
  | items => exact .inl ⟨rfl, rfl, hschema hplain⟩
  | named =>
      rw [isPlainAs, Bool.and_eq_true] at hplain
      exact .inl ⟨m, m', rfl, rfl, hnamed hplain.2⟩
  | data => exact hfree hplain
  | ignored => trivial

/-- A plain reference stands for a schema, if it stands for anything. -/
theorem readsAlike_reference {ref : Value} (href : Entries.find? m "$ref" = some ref) {role : Role}
    (hplain : isPlainAs (.map m) role = true)
    (hschema : isUndeclared m = true → Schematic scope (.map m) w) :
    ReadsAlike (Schematic scope) (.map m) w role := by
  have hnotFree : isRefFree (.map m) ≠ true := fun hfree =>
    absurd (Reference.mem_references_self href) (by
      rw [List.isEmpty_iff.1 hfree]
      exact List.not_mem_nil)
  have hundeclared (hplain : isPlainAs (.map m) .schema = true) : isUndeclared m = true := by
    rw [isPlainAs, Bool.and_eq_true] at hplain
    exact hplain.1
  cases role with
  | schema => exact hschema (hundeclared hplain)
  | schemas => exact absurd hplain hnotFree
  | items =>
      have hagrees := hschema (hundeclared hplain)
      exact .inl ⟨rfl, hagrees.isMap.symm, hagrees⟩
  | named =>
      rw [isPlainAs, Bool.and_eq_true, Entries.has_eq_isSome, href] at hplain
      cases hplain.1
  | data => exact absurd hplain hnotFree
  | ignored => trivial

end ApiRouter.Schema

import ApiRouter.Proofs.Acceptance
import ApiRouter.Proofs.Agreement
import ApiRouter.Proofs.References

set_option autoImplicit false

/-! # Keywords on schemas that agree

A reference may stand wherever a schema is expected, and there alone it means its target. Elsewhere
it is a value like any other: an item of an enumeration, or a property that happens to have the name
`$ref`. A schema is plain when every reference in it stands for a schema, and nothing in it changes
how references or keywords are read.

Two schemas of the same keywords, whose parts agree wherever a part is evaluated and are the same
wherever it is only looked at, agree keyword by keyword. -/

namespace ApiRouter.Schema

/-! ## What keywords hold -/

/-- What a value in a schema is taken for. -/
inductive Role where
  /-- One schema. -/
  | schema
  /-- A list of schemas. -/
  | schemas
  /-- One schema for all items, or a list of schemas. -/
  | items
  /-- Schemas by name. -/
  | named
  /-- A value that is looked at as it stands. -/
  | data
  /-- A value that is not looked at. -/
  | ignored
  deriving DecidableEq, Repr

/-- What the value of a keyword is taken for in draft 4. -/
def roleOf (keyword : Scalar) : Role :=
  match keyword with
  | .text s =>
    if ["not", "additionalProperties", "additionalItems"].contains s then .schema
    else if ["allOf", "anyOf", "oneOf"].contains s then .schemas
    else if s = "items" then .items
    else if ["properties", "patternProperties", "dependencies"].contains s then .named
    else if demands.contains s || s = "exclusiveMinimum" || s = "exclusiveMaximum" then .data
    else .ignored
  | _ => .ignored

/-! ## Plain schemas -/

/-- Whether a mapping neither declares a dialect nor is a resource of its own. -/
def isUndeclared (es : Entries) : Bool :=
  !Entries.has es "$schema" && (Entries.has es "$ref" || !Entries.has es "id")

/-- Whether no references are written in a value. -/
def isRefFree (v : Value) : Bool :=
  (Reference.references v).isEmpty

mutual

/-- Whether the references in a value that is taken for something are all taken for schemas. -/
def isPlainAs : Value → Role → Bool
  | _, .ignored => true
  | .map es, .schema | .map es, .items =>
    isUndeclared es && (Entries.has es "$ref" || areEntriesPlainAs es roleOf)
  | .map es, .named => !Entries.has es "$ref" && areEntriesPlainAs es fun _ => .schema
  | .list vs, .schemas | .list vs, .items => areItemsPlain vs
  | v, _ => isRefFree v

/-- Whether each item of a list is a plain schema. -/
def areItemsPlain : List Value → Bool
  | [] => true
  | v :: vs => isPlainAs v .schema && areItemsPlain vs

/-- Whether each value of a mapping is plain as what its key makes of it. -/
def areEntriesPlainAs : Entries → (Scalar → Role) → Bool
  | [], _ => true
  | (k, v) :: es, role => isPlainAs v (role k) && areEntriesPlainAs es role

end

theorem isPlainAs_of_mem {items : List Value} (h : areItemsPlain items = true) :
    ∀ v ∈ items, isPlainAs v .schema = true := by
  induction items with
  | nil => exact fun v hv => absurd hv List.not_mem_nil
  | cons first rest ih =>
      rw [areItemsPlain, Bool.and_eq_true] at h
      exact List.forall_mem_cons.2 ⟨h.1, ih h.2⟩

theorem isPlainAs_of_entry {entries : Entries} {role : Scalar → Role}
    (h : areEntriesPlainAs entries role = true) :
    ∀ e ∈ entries, isPlainAs e.2 (role e.1) = true := by
  induction entries with
  | nil => exact fun v hv => absurd hv List.not_mem_nil
  | cons first rest ih =>
      obtain ⟨k, v⟩ := first
      rw [areEntriesPlainAs, Bool.and_eq_true] at h
      exact List.forall_mem_cons.2 ⟨h.1, ih h.2⟩

/-! ## Schemas and values that agree -/

/-- Two mappings, or a value that is no mapping and the same value. -/
inductive SameShape : Value → Value → Prop where
  | maps (es es' : Entries) : SameShape (.map es) (.map es')
  | same {v : Value} (hmap : v.isMap = false) : SameShape v v

/-- A schema `v` for one evaluator and a schema `w` for another that come to the same findings and
look alike from outside. -/
structure Alike (e e' : Evaluator) (v w : Value) : Prop where
  part : ∀ x, (e.descend v x).Agrees (e'.descend w x)
  verdict : ∀ x, (e.evaluate .verdict e.context v x).Agrees
    (e'.evaluate .verdict e'.context w x)
  shape : SameShape v w
  showable : v.isShowable = w.isShowable

/-- The values `v` and `w` of a keyword agree as what they are taken for, when schemas agree by
`S`. -/
def ReadsAlike (S : Value → Value → Prop) (v w : Value) : Role → Prop
  | .schema => S v w
  | .schemas => v.isMap = w.isMap ∧ AgreesOn (List.Forall₂ S) (itemsOf v) (itemsOf w)
  | .items =>
    (v.isMap = true ∧ w.isMap = true ∧ S v w) ∨
      (v.isMap = false ∧ w.isMap = false ∧ AgreesOn (List.Forall₂ S) (itemsOf v) (itemsOf w))
  | .named =>
    (∃ es es', v = .map es ∧ w = .map es' ∧
      List.Forall₂ (fun a b => a.1 = b.1 ∧ S a.2 b.2) es es') ∨ (v.isMap = false ∧ v = w)
  | .data => v = w
  | .ignored => True

/-- Schemas of the same keywords, the values of which agree. -/
def KeywordsAlike (S : Value → Value → Prop) (m m' : Entries) : Prop :=
  List.Forall₂ (fun a b => a.1 = b.1 ∧ ReadsAlike S a.2 b.2 (roleOf a.1)) m m'

variable {e e' : Evaluator} {m m' : Entries} {v w : Value}

theorem ReadsAlike.mono {S T : Value → Value → Prop} (hST : ∀ v w, S v w → T v w) {role : Role}
    (h : ReadsAlike S v w role) : ReadsAlike T v w role := by
  have himp {vs ws : List Value} (h : List.Forall₂ S vs ws) : List.Forall₂ T vs ws :=
    h.imp hST
  cases role with
  | schema => exact hST _ _ h
  | schemas => exact ⟨h.1, .imp himp h.2⟩
  | items =>
      rcases h with ⟨hv, hw, h⟩ | ⟨hv, hw, h⟩
      · exact .inl ⟨hv, hw, hST _ _ h⟩
      · exact .inr ⟨hv, hw, .imp himp h⟩
  | named =>
      rcases h with ⟨es, es', rfl, rfl, h⟩ | h
      · exact .inl ⟨es, es', rfl, rfl, h.imp fun a b hab => ⟨hab.1, hST _ _ hab.2⟩⟩
      · exact .inr h
  | data => exact h
  | ignored => trivial

theorem KeywordsAlike.mono {S T : Value → Value → Prop} (hST : ∀ v w, S v w → T v w)
    (h : KeywordsAlike S m m') : KeywordsAlike T m m' :=
  h.imp fun _ _ hab => ⟨hab.1, hab.2.mono hST⟩

/-- Schemas that agree have the same keywords. -/
theorem KeywordsAlike.find? {S : Value → Value → Prop} (h : KeywordsAlike S m m') (k : String) :
    Entries.find? m k = none ∧ Entries.find? m' k = none ∨
      ∃ v w, Entries.find? m k = some v ∧ Entries.find? m' k = some w ∧
        ReadsAlike S v w (roleOf (.text k)) := by
  unfold KeywordsAlike at h
  induction h with
  | nil => exact .inl ⟨rfl, rfl⟩
  | @cons a b rest rest' hab _ ih =>
      obtain ⟨k', v⟩ := a
      obtain ⟨k'', w⟩ := b
      obtain ⟨hkey, hvalue⟩ := hab
      simp only at hkey hvalue
      subst hkey
      simp only [Entries.find?, Ordered.find?] at ih ⊢
      by_cases hk : (k' == Scalar.text k) = true
      · rw [(Scalar.rigid_text k).beq_left _ |>.1 hk] at hvalue
        rw [if_pos hk, if_pos hk]
        exact .inr ⟨v, w, rfl, rfl, hvalue⟩
      · rw [if_neg hk, if_neg hk]
        exact ih

/-- Keywords whose values are only looked at have the same values. -/
theorem KeywordsAlike.find?_data {S : Value → Value → Prop} (h : KeywordsAlike S m m') {k : String}
    (hk : roleOf (.text k) = .data) : Entries.find? m k = Entries.find? m' k := by
  rcases h.find? k with ⟨hm, hm'⟩ | ⟨v, w, hm, hm', hvalue⟩
  · rw [hm, hm']
  · rw [hk] at hvalue
    rw [hm, hm', show v = w from hvalue]

namespace Alike

theorem judge (h : Alike e e' v w) (x : Value) : AgreesOn (· = ·) (e.judge v x) (e'.judge w x) :=
  (h.verdict x).isClear

/-- Evaluation at a part of the instance. -/
theorem descendAt (h : Alike e e' v w) (name : String) (x : Value) :
    (e.descendAt name v x).Agrees (e'.descendAt name w x) := by
  unfold Evaluator.descendAt
  have hpart := h.part x
  cases h.shape with
  | maps es es' =>
      rw [if_neg (fun hes => by cases hes), if_neg (fun hes => by cases hes)]
      exact hpart.under name
  | same =>
      split
      · exact hpart
      · exact hpart.under name

end Alike

/-! ## Values of keywords -/

section Values

variable {S : Value → Value → Prop}

theorem ReadsAlike.entriesOf (h : ReadsAlike S v w .named) :
    AgreesOn (List.Forall₂ fun a b => a.1 = b.1 ∧ S a.2 b.2) (Keyword.entriesOf v)
      (Keyword.entriesOf w) := by
  rcases h with ⟨es, es', rfl, rfl, hentries⟩ | ⟨hmap, rfl⟩
  · exact .ok hentries
  · cases v with
    | map es => cases hmap
    | _ => exact .failed _

/-- Mappings of the same keys, gone through, are the same. -/
theorem ReadsAlike.itemsOf (h : ReadsAlike S v w .named) :
    Schema.itemsOf v = Schema.itemsOf w := by
  rcases h with ⟨es, es', rfl, rfl, hentries⟩ | ⟨-, rfl⟩
  · have hkeys := congrArg (List.map Value.scalar) (Ordered.keys_eq_of_forall₂ hentries)
    simp only [Ordered.keys, List.map_map] at hkeys
    exact congrArg Except.ok hkeys
  · rfl

theorem ReadsAlike.occursIn (h : ReadsAlike S v w .named) (k : Scalar) :
    Keyword.occursIn k v = Keyword.occursIn k w := by
  rcases h with ⟨es, es', rfl, rfl, hentries⟩ | ⟨-, rfl⟩
  · exact congrArg Except.ok (Ordered.has_congr (Ordered.keys_eq_of_forall₂ hentries) k)
  · rfl

end Values

/-! ## Members of mappings -/

/-- Keywords that agree on the values of each other's schemas. -/
def KeepsAgreement (e e' : Evaluator) (m m' : Entries) (role : Role) (keyword : Keyword) : Prop :=
  ∀ v w, ReadsAlike (Alike e e') v w role → ∀ x, (keyword e m v x).Agrees (keyword e' m' w x)

theorem properties_agrees : KeepsAgreement e e' m m' .named Keyword.properties := by
  intro v w h x
  unfold Keyword.properties
  cases x with
  | map es =>
      refine .withValue h.entriesOf fun subs subs' hsubs => .forAll hsubs ?_
      rintro ⟨k, sub⟩ ⟨k', sub'⟩ ⟨hk, hsub⟩
      cases hk
      simp only
      cases Ordered.find? es k with
      | some x => exact hsub.descendAt ..
      | none => exact .refl _
  | _ => exact .refl _

theorem patternProperties_agrees :
    KeepsAgreement e e' m m' .named Keyword.patternProperties := by
  intro v w h x
  unfold Keyword.patternProperties
  cases x with
  | map es =>
      refine .withValue h.entriesOf fun subs subs' hsubs => .forAll hsubs ?_
      rintro ⟨p, sub⟩ ⟨p', sub'⟩ ⟨hp, hsub⟩
      cases hp
      refine .forAll_same fun kx => .withValue (.refl _) ?_
      rintro found _ rfl
      cases found with
      | true => exact hsub.descendAt ..
      | false => exact .refl _
  | _ => exact .refl _

theorem dependencies_agrees : KeepsAgreement e e' m m' .named Keyword.dependencies := by
  intro v w h x
  unfold Keyword.dependencies Keyword.forPresentKeys
  cases x with
  | map es =>
      refine .withValue h.entriesOf fun deps deps' hdeps => .forAll hdeps ?_
      rintro ⟨k, dep⟩ ⟨k', dep'⟩ ⟨hk, hdep⟩
      cases hk
      simp only at hdep ⊢
      split
      -- names that a key needs are no mapping, so both schemas have the same ones
      · cases hdep.shape with
        | maps => exact hdep.part _
        | same =>
            split
            · exact .refl _
            · exact hdep.part _
      · exact .refl _
  | _ => exact .refl _

/-- The keys that no schema is given for are the same. -/
theorem extraKeys_eq (h : KeywordsAlike (Alike e e') m m') (es : Entries) :
    Keyword.extraKeys m es = Keyword.extraKeys m' es := by
  unfold Keyword.extraKeys
  have hnamed : ∀ k, Keyword.occursIn k ((Entries.find? m "properties").getD (.map []))
      = Keyword.occursIn k ((Entries.find? m' "properties").getD (.map [])) := by
    intro k
    rcases h.find? "properties" with ⟨hm, hm'⟩ | ⟨v, w, hm, hm', hvalue⟩
    · rw [hm, hm']
    · rw [hm, hm']
      exact ReadsAlike.occursIn hvalue k
  have hpatterns : itemsOf ((Entries.find? m "patternProperties").getD (.map []))
      = itemsOf ((Entries.find? m' "patternProperties").getD (.map [])) := by
    rcases h.find? "patternProperties" with ⟨hm, hm'⟩ | ⟨v, w, hm, hm', hvalue⟩
    · rw [hm, hm']
    · rw [hm, hm']
      exact ReadsAlike.itemsOf hvalue
  simp only [hnamed, hpatterns]

theorem extraViolation_eq (h : KeywordsAlike (Alike e e') m m') (extras : List Scalar) :
    Keyword.extraViolation m extras = Keyword.extraViolation m' extras := by
  unfold Keyword.extraViolation
  rcases h.find? "patternProperties" with ⟨hm, hm'⟩ | ⟨v, w, hm, hm', hvalue⟩
  · rw [hm, hm']
  · rw [hm, hm']
    simp only [ReadsAlike.itemsOf hvalue]

theorem additionalProperties_agrees (h : KeywordsAlike (Alike e e') m m') :
    KeepsAgreement e e' m m' .schema Keyword.additionalProperties := by
  intro v w hvalue x
  unfold Keyword.additionalProperties
  cases x with
  | map es =>
      simp only [extraKeys_eq h]
      refine .withValue (.refl _) ?_
      rintro extras _ rfl
      simp only [extraViolation_eq h]
      have hpart := Alike.part hvalue
      cases Alike.shape hvalue with
      | maps => exact .forAll_same fun k => (hpart _).under _
      | same hmap =>
          simp only [hmap]
          exact .refl _
  | _ => exact .refl _

/-! ## Items of lists -/

theorem everyItem_agrees (h : Alike e e' v w) (start : Nat) (xs : List Value) :
    (Keyword.everyItem e v start xs).Agrees (Keyword.everyItem e' w start xs) :=
  .forAll_same fun _ => h.descendAt ..

theorem itemByItem_agrees {subs subs' : List Value} (h : List.Forall₂ (Alike e e') subs subs')
    (xs : List Value) : (Keyword.itemByItem e subs xs).Agrees (Keyword.itemByItem e' subs' xs) := by
  have hrows : ∀ start, List.Forall₂
      (fun a b => a.1.1 = b.1.1 ∧ Alike e e' a.1.2 b.1.2 ∧ a.2 = b.2)
      ((xs.zip subs).zipIdx start) ((xs.zip subs').zipIdx start) := by
    induction h generalizing xs with
    | nil => simp
    | cons hab _ ih =>
        intro start
        cases xs with
        | nil => exact .nil
        | cons x rest => exact .cons ⟨rfl, hab, rfl⟩ (ih rest (start + 1))
  refine .forAll (hrows 0) ?_
  rintro ⟨⟨x, sub⟩, i⟩ ⟨⟨x', sub'⟩, i'⟩ ⟨hx, hsub, hi⟩
  cases hx
  cases hi
  exact Alike.descendAt hsub _ _

theorem items_agrees : KeepsAgreement e e' m m' .items Keyword.itemsOfEarlyDrafts := by
  intro v w h x
  unfold Keyword.itemsOfEarlyDrafts
  cases x with
  | list xs =>
      rcases h with ⟨hv, hw, h⟩ | ⟨hv, hw, h⟩
      · simp only [hv, hw]
        exact everyItem_agrees h 0 xs
      · simp only [hv, hw]
        exact .withValue h fun subs subs' hsubs => itemByItem_agrees hsubs xs
  | _ => exact .refl _

/-- What is asked of the items that come after the first ones. -/
theorem remaining_agrees (h : Alike e e' v w) (n : Nat) (xs : List Value) :
    (let extras := xs.drop n
      if v.isMap then Keyword.everyItem e v n extras
      else if v.truthy || extras.isEmpty then .clear
      else Keyword.extraItems extras "Additional").Agrees
    (let extras := xs.drop n
      if w.isMap then Keyword.everyItem e' w n extras
      else if w.truthy || extras.isEmpty then .clear
      else Keyword.extraItems extras "Additional") := by
  cases h.shape with
  | maps es es' => exact everyItem_agrees h n _
  | same hmap =>
      simp only [hmap]
      exact .refl _

theorem additionalItems_agrees (h : KeywordsAlike (Alike e e') m m') :
    KeepsAgreement e e' m m' .schema Keyword.additionalItems := by
  intro v w hvalue x
  unfold Keyword.additionalItems Keyword.sizeOfKeyword
  cases x with
  | list xs =>
      rcases h.find? "items" with ⟨hm, hm'⟩ | ⟨subs, subs', hm, hm', hsubs⟩
      · rw [hm, hm']
        exact .refl _
      · rw [hm, hm']
        have hitems : ReadsAlike (Alike e e') subs subs' .items := hsubs
        rcases hitems with ⟨hmap, hmap', -⟩ | ⟨hmap, hmap', hitems⟩
        · cases subs with
          | map es =>
              cases subs' with
              | map es' => exact .refl _
              | _ => cases hmap'
          | _ => cases hmap
        -- only the number of schemas for the first items counts
        · have hlength : AgreesOn (· = ·) (List.length <$> itemsOf subs)
              (List.length <$> itemsOf subs') :=
            hitems.bind fun vs ws hvs => .ok hvs.length_eq
          cases subs with
          | map es => cases hmap
          | _ =>
            cases subs' with
            | map es => cases hmap'
            | _ => exact .withValue hlength fun n _ hn => hn ▸ remaining_agrees hvalue n xs
  | _ => exact .refl _

/-! ## Combinations -/

theorem allOf_agrees : KeepsAgreement e e' m m' .schemas Keyword.allOf := by
  rintro v w ⟨-, h⟩ x
  exact .withValue h fun subs subs' hsubs => .forAll hsubs fun sub sub' hsub => hsub.part x

/-- The first schema that is satisfied stands at the same place. -/
theorem firstValid_agrees {subs subs' : List Value} (h : List.Forall₂ (Alike e e') subs subs')
    (x : Value) :
    AgreesOn (Option.Rel fun a b => Alike e e' a.1 b.1 ∧ List.Forall₂ (Alike e e') a.2 b.2)
      (Keyword.firstValid e x subs) (Keyword.firstValid e' x subs') := by
  induction h with
  | nil => exact .ok .none
  | cons hab hrest ih =>
      refine (hab.part x).all.bind fun vs vs' hvs => ?_
      rw [← hvs]
      split
      · exact .ok (.some ⟨hab, hrest⟩)
      · exact ih

theorem anyOf_agrees : KeepsAgreement e e' m m' .schemas Keyword.anyOf := by
  rintro v w ⟨-, h⟩ x
  refine .withValue h fun subs subs' hsubs => .withValue (firstValid_agrees hsubs x) ?_
  rintro _ _ (_ | _)
  · exact .refl _
  · exact .refl _

theorem judgeAll_agrees {subs subs' : List Value} (h : List.Forall₂ (Alike e e') subs subs')
    (x : Value) :
    AgreesOn (List.Forall₂ (Alike e e')) (subs.filterM fun sub => e.judge sub x)
      (subs'.filterM fun sub => e'.judge sub x) := by
  have hfrom : ∀ {kept kept' : List Value}, List.Forall₂ (Alike e e') kept kept' →
      AgreesOn (List.Forall₂ (Alike e e'))
        (List.filterAuxM (fun sub => e.judge sub x) subs kept)
        (List.filterAuxM (fun sub => e'.judge sub x) subs' kept') := by
    induction h with
    | nil => exact fun hkept => .ok hkept
    | cons hab _ ih =>
        intro kept kept' hkept
        refine (hab.judge x).bind ?_
        rintro ok _ rfl
        cases ok with
        | true => exact ih (.cons hab hkept)
        | false => exact ih hkept
  exact (hfrom .nil).bind fun kept kept' hkept => .ok (List.rel_reverse hkept)

theorem showable_eq {vs ws : List Value} (h : List.Forall₂ (Alike e e') vs ws) :
    vs.all Value.isShowable = ws.all Value.isShowable := by
  induction h with
  | nil => rfl
  | cons hab _ ih => rw [List.all_cons, List.all_cons, hab.showable, ih]

theorem oneOf_agrees : KeepsAgreement e e' m m' .schemas Keyword.oneOf := by
  rintro v w ⟨-, h⟩ x
  refine .withValue h fun subs subs' hsubs => .withValue (firstValid_agrees hsubs x) ?_
  rintro _ _ (⟨hfirst, hrest⟩ | _)
  · refine .withValue (judgeAll_agrees hrest x) fun more more' hmore => ?_
    have hempty : more.isEmpty = more'.isEmpty := by
      cases hmore with
      | nil => rfl
      | cons => rfl
    rw [hempty]
    refine .require _ _ _ ?_
    simp only [List.all_cons, hfirst.showable, showable_eq hmore]
  · exact .refl _

theorem negation_agrees : KeepsAgreement e e' m m' .schema Keyword.negation := by
  intro v w h x
  refine .withValue (Alike.judge h x) ?_
  rintro valid _ rfl
  refine .require _ _ _ ?_
  simp only [List.all_cons, Alike.showable h]

/-! ## All keywords -/

/-- The keywords that hold schemas. -/
def holders : List String :=
  ["additionalItems", "additionalProperties", "allOf", "anyOf", "dependencies", "items", "not",
    "oneOf", "patternProperties", "properties"]

/-- A keyword of draft 4 is a reference, or it holds schemas, or it looks at the instance alone. -/
theorem exists_name_of_find? {k : Scalar} {keyword : Keyword}
    (h : Keyword.find? .draft4 k = some keyword) :
    ∃ s, k = .text s ∧ (s = "$ref" ∨ s ∈ holders ∨ s ∈ demands) := by
  unfold Keyword.find? at h
  split at h
  · next s =>
      refine ⟨s, rfl, ?_⟩
      obtain ⟨group, hgroup, h⟩ := List.exists_of_findSome?_eq_some h
      simp only [Keyword.groups, List.mem_cons, List.not_mem_nil, or_false] at hgroup
      rcases hgroup with rfl | rfl | rfl
      · unfold Keyword.common? at h
        split at h
        all_goals first | decide | cases h
      · unfold Keyword.sinceDraft4? at h
        split at h
        all_goals first | decide | cases h
      · unfold Keyword.ofDraft4? at h
        split at h
        all_goals first | decide | cases h
  · cases h

theorem keyword_agrees (hrules : e.context.rules = e'.context.rules)
    (h : KeywordsAlike (Alike e e') m m') {k : Scalar} (hk : k ≠ .text "$ref")
    {keyword : Keyword} (hfind : Keyword.find? .draft4 k = some keyword) :
    KeepsAgreement e e' m m' (roleOf k) keyword := by
  obtain ⟨s, rfl, rfl | hs | hs⟩ := exists_name_of_find? hfind
  · exact absurd rfl hk
  · simp only [holders, List.mem_cons, List.not_mem_nil, or_false] at hs
    rcases hs with rfl | rfl | rfl | rfl | rfl | rfl | rfl | rfl | rfl | rfl <;> cases hfind
    · exact additionalItems_agrees h
    · exact additionalProperties_agrees h
    · exact allOf_agrees
    · exact anyOf_agrees
    · exact dependencies_agrees
    · exact items_agrees
    · exact negation_agrees
    · exact oneOf_agrees
    · exact patternProperties_agrees
    · exact properties_agrees
  · have hdata : roleOf (.text s) = .data :=
      (by decide : ∀ s ∈ demands, roleOf (.text s) = .data) s hs
    rw [hdata]
    rintro v w rfl x
    exact .of_eq (keyword_congr hs hfind hrules (h.find?_data (by decide))
      (h.find?_data (by decide)) v x)

/-- No keyword looks at the definitions beside it. -/
theorem keyword_withDefinitions {k : Scalar} {keyword : Keyword}
    (hfind : Keyword.find? .draft4 k = some keyword) (definitions v x : Value) :
    keyword e (withDefinitions m definitions) v x = keyword e m v x := by
  obtain ⟨s, rfl, rfl | hs | hs⟩ := exists_name_of_find? hfind
  · cases hfind
    rfl
  · rcases List.mem_cons.1 hs with rfl | hs
    · cases hfind
      have hitems := @find?_withDefinitions definitions m "items" (by decide)
      simp only [Keyword.additionalItems, Keyword.sizeOfKeyword, hitems]
    rcases List.mem_cons.1 hs with rfl | hs
    · cases hfind
      have hnamed := @find?_withDefinitions definitions m "properties" (by decide)
      have hpatterns := @find?_withDefinitions definitions m "patternProperties" (by decide)
      simp only [Keyword.additionalProperties, Keyword.extraKeys, Keyword.extraViolation, hnamed,
        hpatterns]
    -- the other keywords do not look at their schema
    simp only [List.mem_cons, List.not_mem_nil, or_false] at hs
    rcases hs with rfl | rfl | rfl | rfl | rfl | rfl | rfl | rfl <;> cases hfind <;> rfl
  · exact keyword_congr hs hfind rfl (find?_withDefinitions (by decide))
      (find?_withDefinitions (by decide)) v x

end ApiRouter.Schema

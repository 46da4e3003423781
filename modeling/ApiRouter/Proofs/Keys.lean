import ApiRouter.Proofs.Ordered

set_option autoImplicit false

/-! # Which keys are the same

Keys of documents are compared loosely: a number equals another of its value, whatever their kinds,
and moments are told apart by when they happen. This equality is symmetric and transitive, so equal
keys find the same in a mapping. It is not reflexive: a not-a-number that arises anew equals no key,
and what is bound to it is not found again. -/

namespace ApiRouter.Ordered

variable {κ α : Type} [BEq κ]

/-! ## Binding under equal keys -/

section Equals

variable [PartialEquivBEq κ]

/-- Equal keys find the same. -/
theorem find?_congr {k l : κ} (h : (k == l) = true) (m : List (κ × α)) :
    find? m k = find? m l := by
  induction m with
  | nil => rfl
  | cons e rest ih =>
      have hsame : (e.1 == k) = (e.1 == l) := BEq.congr_right h
      rw [find?, find?, hsame, ih]

/-- Binding a key changes what is found under the keys that equal it, and nothing else. -/
theorem find?_insert_equal (m : List (κ × α)) (k q : κ) (v : α) :
    find? (insert m k v) q = if k == q then some v else find? m q := by
  induction m with
  | nil => rfl
  | cons e rest ih =>
      obtain ⟨k', v'⟩ := e
      rw [insert]
      split
      · next hk =>
          have hsame : (k' == q) = (k == q) := BEq.congr_left hk
          rw [find?, find?, hsame]
          split
          · rfl
          · rfl
      · next hk =>
          rw [find?, find?, ih]
          split
          · next hq =>
              have hkq : ¬ (k == q) = true := fun h => hk (BEq.trans hq (BEq.symm h))
              rw [if_neg hkq]
          · rfl

/-- A key is bound after binding another or the same one. -/
theorem has_insert (m : List (κ × α)) (k q : κ) (v : α) :
    has (insert m k v) q = (k == q || has m q) := by
  rw [has_eq_isSome, has_eq_isSome, find?_insert_equal]
  split
  · next hk => rw [hk]; rfl
  · next hk => rw [Bool.eq_false_iff.2 hk, Bool.false_or]

/-- Behind a key nothing more is found under those that equal it. -/
theorem Distinct.find?_tail_equal {k q : κ} {v : α} {m : List (κ × α)}
    (h : Distinct ((k, v) :: m)) (hk : (k == q) = true) : find? m q = none := by
  rw [← Option.not_isSome_iff_eq_none, ← has_eq_isSome, has_eq_true]
  rintro ⟨l, hl, hlq⟩
  have hkl : (k == l) = true := BEq.trans hk (BEq.symm hlq)
  rw [(List.pairwise_cons.1 h).1 l hl] at hkl
  cases hkl

end Equals

/-- In a mapping that holds each key once, an entry is found under its key. -/
theorem Distinct.find?_of_mem {m : List (κ × α)} (h : Distinct m) {e : κ × α} (he : e ∈ m)
    (hself : (e.1 == e.1) = true) : find? m e.1 = some e.2 := by
  induction m with
  | nil => cases he
  | cons first rest ih =>
      rcases List.mem_cons.1 he with rfl | hrest
      · rw [find?, if_pos hself]
      · have hfirst := (List.pairwise_cons.1 h).1 e.1 (List.mem_map.2 ⟨e, hrest, rfl⟩)
        rw [find?, if_neg (Bool.eq_false_iff.1 hfirst), ih h.tail hrest]

theorem exists_mem_of_find? {m : List (κ × α)} {q : κ} {v : α} (h : find? m q = some v) :
    ∃ k, (k, v) ∈ m := by
  induction m with
  | nil => cases h
  | cons e rest ih =>
      rw [find?] at h
      split at h
      · cases h
        exact ⟨e.1, List.mem_cons_self ..⟩
      · obtain ⟨k, hk⟩ := ih h
        exact ⟨k, List.mem_cons_of_mem _ hk⟩

/-- Binding what is bound already changes nothing. -/
theorem insert_of_find? {m : List (κ × α)} {k : κ} {v : α} (h : find? m k = some v) :
    insert m k v = m := by
  induction m with
  | nil => cases h
  | cons e rest ih =>
      rw [find?] at h
      rw [insert]
      split at h
      · next hk =>
          cases h
          rw [if_pos hk]
      · next hk => rw [if_neg hk, ih h]

/-! ## The keys of a mapping -/

theorem mem_keys_insert {m : List (κ × α)} {k l : κ} {v : α} (h : l ∈ keys (insert m k v)) :
    l = k ∨ l ∈ keys m := by
  rw [keys_insert] at h
  split at h
  · exact .inr h
  · rcases List.mem_append.1 h with hm | hk
    · exact .inr hm
    · exact .inl (List.mem_singleton.1 hk)

theorem mem_keys_update {m n : List (κ × α)} {l : κ} (h : l ∈ keys (update m n)) :
    l ∈ keys n ∨ l ∈ keys m := by
  induction n generalizing m with
  | nil => exact .inr h
  | cons e rest ih =>
      rcases ih h with hrest | hinsert
      · exact .inl (List.mem_cons_of_mem _ hrest)
      · rcases mem_keys_insert hinsert with rfl | hm
        · exact .inl (List.mem_cons_self ..)
        · exact .inr hm

theorem mem_keys_ofList {es : List (κ × α)} {l : κ} (h : l ∈ keys (ofList es)) : l ∈ keys es :=
  (mem_keys_update h).resolve_right List.not_mem_nil

end ApiRouter.Ordered

namespace ApiRouter

/-! ## Keys of documents -/

/-- Numbers are equal that lie at the same place of the line. -/
theorem Number.eq_iff {x y : Number} :
    x.eq y = true ↔ x.position = y.position ∧ x.position ≠ .nowhere := by
  unfold Number.eq
  split
  · next hx hy => simp [hx, hy]
  · next hx hy => simp [hx, hy]
  · next hx hy => simp [hx, hy]
  · next hbelow habove hat =>
      constructor
      · intro h
        cases h
      · rintro ⟨hsame, hplace⟩
        cases hx : x.position with
        | nowhere => exact absurd hx hplace
        | below => exact (hbelow hx (hsame ▸ hx)).elim
        | «at» q => exact (hat q q hx (hsame ▸ hx)).elim
        | above => exact (habove hx (hsame ▸ hx)).elim

namespace Scalar

/-- When two scalars are the same key. -/
inductive SameKey : Scalar → Scalar → Prop where
  | nan {origin : NanOrigin} : origin ≠ .other →
      SameKey (.float (.nan origin)) (.float (.nan origin))
  | moment {m n : Moment} : m.same n = true → SameKey (.moment m) (.moment n)
  | number {a b : Scalar} {x y : Number} :
      a.number? = some x → b.number? = some y → x.eq y = true → SameKey a b
  | alone {a : Scalar} : a.number? = none → SameKey a a

theorem not_eq_nan {origin : NanOrigin} {x y : Number}
    (h : (Scalar.float (.nan origin)).number? = some x) : x.eq y = false ∧ y.eq x = false := by
  cases h
  constructor
  · rw [Bool.eq_false_iff, Ne, Number.eq_iff]
    exact fun hplace => hplace.2 rfl
  · rw [Bool.eq_false_iff, Ne, Number.eq_iff]
    exact fun hplace => hplace.2 (hplace.1.trans rfl)

theorem beq_iff_sameKey {a b : Scalar} : (a == b) = true ↔ SameKey a b := by
  change same a b = true ↔ SameKey a b
  unfold same
  split
  · next o p =>
      constructor
      · intro h
        obtain ⟨rfl, ho⟩ : o = p ∧ o ≠ .other := by simpa using h
        exact .nan ho
      · intro h
        cases h with
        | nan ho => simpa using ho
        | number hx _ heq =>
            rw [(not_eq_nan hx).1] at heq
            cases heq
        | alone hnone => cases hnone
  · next m n =>
      constructor
      · exact .moment
      · intro h
        cases h with
        | moment hsame => exact hsame
        | number hx => cases hx
        | alone => simp [Moment.same]
  · next hnan hmoment =>
      split
      · next x y hx hy =>
          constructor
          · exact .number hx hy
          · intro h
            cases h with
            | nan => exact (hnan _ _ rfl rfl).elim
            | moment => cases hx
            | number hx' hy' heq =>
                cases hx.symm.trans hx'
                cases hy.symm.trans hy'
                exact heq
            | alone hnone => cases hx.symm.trans hnone
      · next hx hy =>
          rw [decide_eq_true_eq]
          constructor
          · rintro rfl
            exact .alone hx
          · intro h
            cases h with
            | nan => cases hx
            | moment => exact (hmoment _ _ rfl rfl).elim
            | number hx' => cases hx.symm.trans hx'
            | alone => rfl
      · next hsome hnone =>
          constructor
          · intro h
            cases h
          · intro h
            cases h with
            | nan => exact (hnan _ _ rfl rfl).elim
            | moment => exact (hmoment _ _ rfl rfl).elim
            | number hx hy => exact (hsome _ _ hx hy).elim
            | alone h => exact (hnone h h).elim

theorem SameKey.symm {a b : Scalar} (h : SameKey a b) : SameKey b a := by
  cases h with
  | nan ho => exact .nan ho
  | moment hsame =>
      rw [Moment.same, Bool.and_eq_true, beq_iff_eq, beq_iff_eq] at hsame
      exact .moment (by simp [Moment.same, hsame.1, hsame.2])
  | number hx hy heq =>
      obtain ⟨hplace, hsome⟩ := Number.eq_iff.1 heq
      exact .number hy hx (Number.eq_iff.2 ⟨hplace.symm, hplace ▸ hsome⟩)
  | alone hnone => exact .alone hnone

theorem SameKey.trans {a b c : Scalar} (h : SameKey a b) (h' : SameKey b c) : SameKey a c := by
  cases h with
  | nan ho =>
      cases h' with
      | nan => exact .nan ho
      | number hx _ heq =>
          rw [(not_eq_nan hx).1] at heq
          cases heq
      | alone hnone => cases hnone
  | moment hsame =>
      cases h' with
      | moment hsame' =>
          rw [Moment.same, Bool.and_eq_true, beq_iff_eq, beq_iff_eq] at hsame hsame'
          exact .moment (by simp [Moment.same, hsame.1, hsame.2, hsame'.1, hsame'.2])
      | number hx => cases hx
      | alone => exact .moment hsame
  | number hx hy heq =>
      cases h' with
      | nan =>
          rw [(not_eq_nan hy).2] at heq
          cases heq
      | moment => cases hy
      | number hy' hz heq' =>
          cases hy.symm.trans hy'
          obtain ⟨hplace, hsome⟩ := Number.eq_iff.1 heq
          obtain ⟨hplace', -⟩ := Number.eq_iff.1 heq'
          exact .number hx hz (Number.eq_iff.2 ⟨hplace.trans hplace', hsome⟩)
      | alone hnone => cases hy.symm.trans hnone
  | alone => exact h'

instance : PartialEquivBEq Scalar where
  symm h := beq_iff_sameKey.2 (beq_iff_sameKey.1 h).symm
  trans h h' := beq_iff_sameKey.2 ((beq_iff_sameKey.1 h).trans (beq_iff_sameKey.1 h'))

end Scalar
end ApiRouter

import ApiRouter.Value
import Mathlib.Data.List.Dedup
import Mathlib.Data.List.Forall2
import Mathlib.Data.List.Induction

set_option autoImplicit false

/-! # Laws of insertion-ordered mappings

What is found under a key after binding, overriding and building from entries, and where a mapping
that is computed key by key is changed by a binding.

Keys of documents are compared loosely: a number equals another of its value, whatever their kinds.
The laws of lookups therefore ask that the key looked for is *rigid*, equal to itself and to nothing
else. Every text is. -/

namespace ApiRouter.Ordered

variable {κ α : Type} [BEq κ]

/-! ## Rigid keys -/

/-- A key that equals itself and nothing else. -/
structure Rigid (q : κ) : Prop where
  beq_left : ∀ k : κ, (k == q) = true ↔ k = q
  beq_right : ∀ k : κ, (q == k) = true ↔ k = q

theorem rigid_of_lawful [LawfulBEq κ] (q : κ) : Rigid q :=
  ⟨fun _ => beq_iff_eq, fun _ => beq_iff_eq.trans eq_comm⟩

/-! ## Looking up -/

theorem find?_append (m n : List (κ × α)) (q : κ) :
    find? (m ++ n) q = (find? m q).or (find? n q) := by
  induction m with
  | nil => simp [find?]
  | cons e rest ih =>
      simp only [List.cons_append, find?]
      split
      · simp
      · exact ih

theorem has_eq_isSome (m : List (κ × α)) (q : κ) : has m q = (find? m q).isSome := by
  induction m with
  | nil => rfl
  | cons e rest ih =>
      rw [has, List.any_cons, find?]
      split
      · next hk => simp [hk]
      · next hk =>
          rw [← ih, has]
          simp [hk]

/-- A key is bound when a key equal to it stands among the keys. -/
theorem has_eq_true {m : List (κ × α)} {q : κ} :
    has m q = true ↔ ∃ k ∈ keys m, (k == q) = true := by
  simp [has, keys]

/-- Which keys are bound can be told from the keys. -/
theorem has_congr {m n : List (κ × α)} (h : keys m = keys n) (q : κ) : has m q = has n q := by
  have hkeys := congrArg (List.any · (· == q)) h
  simp only [keys, List.any_map] at hkeys
  exact hkeys

theorem mem_of_find? {m : List (κ × α)} {q : κ} {v : α} (hq : Rigid q) (h : find? m q = some v) :
    (q, v) ∈ m := by
  induction m with
  | nil => simp [find?] at h
  | cons e rest ih =>
      obtain ⟨k, w⟩ := e
      simp only [find?] at h
      split at h
      · next hk =>
          cases h
          rw [(hq.beq_left k).1 hk]
          exact List.mem_cons_self ..
      · exact List.mem_cons_of_mem _ (ih h)

/-- Nothing is found under a key exactly when it does not stand among the keys. -/
theorem find?_eq_none_iff [LawfulBEq κ] {m : List (κ × α)} {q : κ} :
    find? m q = none ↔ q ∉ keys m := by
  rw [← Option.not_isSome_iff_eq_none, ← has_eq_isSome, has_eq_true, not_iff_not]
  simp

/-- Rows that differ in the values of other keys only hold the same under a key. -/
theorem find?_of_forall₂ {m n : List (κ × α)} {q : κ}
    (h : List.Forall₂ (fun a b => b.1 = a.1 ∧ ((a.1 == q) = true → b.2 = a.2)) m n) :
    find? m q = find? n q := by
  induction h with
  | nil => rfl
  | @cons a b m n hab _ ih =>
      obtain ⟨hkey, hvalue⟩ := hab
      rw [find?, find?, hkey, ih]
      split
      · next hq => rw [hvalue hq]
      · rfl

/-- Mappings of the same keys, each of which they hold once, are the same when they hold the same
    under each. -/
theorem eq_of_find?_eq [LawfulBEq κ] {m n : List (κ × α)} (hkeys : keys m = keys n)
    (hnodup : (keys m).Nodup) (h : ∀ q ∈ keys m, find? m q = find? n q) : m = n := by
  induction m generalizing n with
  | nil => exact (List.map_eq_nil_iff.1 hkeys.symm).symm
  | cons e rest ih =>
      obtain ⟨⟨k, w⟩, rest', rfl, hkey, hrest⟩ := List.map_eq_cons_iff.1 hkeys.symm
      obtain ⟨k', v⟩ := e
      cases hkey
      obtain ⟨hnew, hnodup⟩ := List.nodup_cons.1 hnodup
      have hv : v = w := by
        have hhead := h k (List.mem_cons_self ..)
        simpa [find?] using hhead
      rw [hv, ih hrest.symm hnodup fun q hq => ?_]
      have hne : ¬ k = q := fun he => hnew (he ▸ hq)
      have htail := h q (List.mem_cons_of_mem _ hq)
      simpa [find?, hne] using htail

theorem length_of_keys_eq {β : Type} {m n : List (β × α)} (h : keys m = keys n) :
    m.length = n.length := by
  simpa [keys] using congrArg List.length h

/-- Mappings of the same keys are related row by row when their values are. -/
theorem forall₂_of_keys_eq {β : Type} {m n : List (β × α)} (R : β → α → α → Prop)
    (hkeys : keys m = keys n) (h : ∀ p ∈ m.zip n, R p.1.1 p.1.2 p.2.2) :
    List.Forall₂ (fun a b => a.1 = b.1 ∧ R a.1 a.2 b.2) m n := by
  induction m generalizing n with
  | nil =>
      rw [List.map_eq_nil_iff.1 hkeys.symm]
      exact .nil
  | cons a rest ih =>
      obtain ⟨b, rest', rfl, hkey, hrest⟩ := List.map_eq_cons_iff.1 hkeys.symm
      rw [List.zip_cons_cons, List.forall_mem_cons] at h
      exact .cons ⟨hkey.symm, h.1⟩ (ih hrest.symm h.2)

theorem keys_eq_of_forall₂ {β γ : Type} {m : List (β × α)} {n : List (β × γ)} {R : α → γ → Prop}
    (h : List.Forall₂ (fun a b => a.1 = b.1 ∧ R a.2 b.2) m n) : keys m = keys n := by
  induction h with
  | nil => rfl
  | cons hab _ ih => exact congrArg₂ List.cons hab.1 ih

/-- Mappings of the same keys hold something under the same keys, in the same rows. -/
theorem find?_of_keys_eq {m n : List (κ × α)} (h : keys m = keys n) (q : κ) :
    find? m q = none ∧ find? n q = none ∨
      ∃ k v w, ((k, v), (k, w)) ∈ m.zip n ∧ find? m q = some v ∧ find? n q = some w := by
  induction m generalizing n with
  | nil =>
      rw [List.map_eq_nil_iff.1 h.symm]
      exact .inl ⟨rfl, rfl⟩
  | cons e rest ih =>
      obtain ⟨⟨k, w⟩, rest', rfl, hkey, hrest⟩ := List.map_eq_cons_iff.1 h.symm
      obtain ⟨k', v⟩ := e
      cases hkey
      rw [List.zip_cons_cons, find?, find?]
      split
      · exact .inr ⟨k, v, w, List.mem_cons_self .., rfl, rfl⟩
      · rcases ih hrest.symm with hnone | ⟨l, x, y, hmem, hx, hy⟩
        · exact .inl hnone
        · exact .inr ⟨l, x, y, List.mem_cons_of_mem _ hmem, hx, hy⟩

/-- In a mapping whose entries are computed from indices with different keys, each index finds
    its own entry. -/
theorem find?_indexed {ι : Type} [LawfulBEq κ] (key : ι → κ) (f : ι → α) {is : List ι} {i : ι}
    (hi : i ∈ is) (hinj : ∀ j ∈ is, key j = key i → j = i) :
    find? (is.map fun j => (key j, f j)) (key i) = some (f i) := by
  induction is with
  | nil => cases hi
  | cons j rest ih =>
      rw [List.map_cons, find?]
      split
      · next hkey => rw [hinj j (List.mem_cons_self ..) (beq_iff_eq.1 hkey)]
      · next hkey =>
          rcases List.mem_cons.1 hi with rfl | hi
          · exact absurd (beq_iff_eq.2 rfl) hkey
          · exact ih hi fun l hl => hinj l (List.mem_cons_of_mem _ hl)

/-! ## Binding -/

/-- Binding keeps the keys in their order; a new key comes last. -/
theorem keys_insert (m : List (κ × α)) (k : κ) (v : α) :
    keys (insert m k v) = if has m k then keys m else keys m ++ [k] := by
  induction m with
  | nil => rfl
  | cons e rest ih =>
      obtain ⟨k', v'⟩ := e
      have hhas : has ((k', v') :: rest) k = (k' == k || has rest k) := rfl
      have hkeys (m : List (κ × α)) : keys ((k', v') :: m) = k' :: keys m := rfl
      rw [insert, hhas]
      by_cases hk : (k' == k) = true
      · rw [if_pos hk, hk, Bool.true_or, if_pos rfl]
        rfl
      · rw [if_neg hk, Bool.eq_false_iff.2 hk, Bool.false_or, hkeys, hkeys, ih]
        split
        · rfl
        · rfl

/-- Binding a key changes what is found under that key only. -/
theorem find?_insert {q : κ} (hq : Rigid q) (m : List (κ × α)) (k : κ) (v : α) :
    find? (insert m k v) q = if k == q then some v else find? m q := by
  induction m with
  | nil => simp only [insert, find?]
  | cons e rest ih =>
      obtain ⟨k', v'⟩ := e
      simp only [insert]
      by_cases hk : (k' == k) = true
      · rw [if_pos hk]
        simp only [find?]
        by_cases hk' : k' = q
        · subst hk'
          have hkq : k = k' := (hq.beq_right k).1 hk
          subst hkq
          rw [if_pos hk, if_pos hk]
        · have hkq : ¬ k = q := fun he => hk' ((hq.beq_left k').1 (he ▸ hk))
          rw [if_neg fun h => hk' ((hq.beq_left k').1 h), if_neg fun h => hkq ((hq.beq_left k).1 h),
            if_neg fun h => hk' ((hq.beq_left k').1 h)]
      · rw [if_neg hk]
        simp only [find?, ih]
        by_cases hk' : k' = q
        · subst hk'
          have hkq : ¬ k = k' := fun he => hk ((hq.beq_right k).2 he)
          rw [if_pos ((hq.beq_left k').2 rfl), if_neg fun h => hkq ((hq.beq_left k).1 h),
            if_pos ((hq.beq_left k').2 rfl)]
        · rw [if_neg fun h => hk' ((hq.beq_left k').1 h), if_neg fun h => hk' ((hq.beq_left k').1 h)]

/-- After overriding, the last of the new values counts, else the one before. -/
theorem find?_update {q : κ} (hq : Rigid q) (m n : List (κ × α)) :
    find? (update m n) q = (find? n.reverse q).or (find? m q) := by
  induction n generalizing m with
  | nil => simp [update, find?]
  | cons e rest ih =>
      obtain ⟨k, v⟩ := e
      have hstep : update m ((k, v) :: rest) = update (insert m k v) rest := rfl
      rw [hstep, ih, find?_insert hq, List.reverse_cons, find?_append, Option.or_assoc]
      congr 1
      simp only [find?]
      split <;> simp

/-- In a mapping written as entries the last value of a key counts. -/
theorem find?_ofList {q : κ} (hq : Rigid q) (es : List (κ × α)) :
    find? (ofList es) q = find? es.reverse q := by
  rw [ofList, find?_update hq]
  simp [find?]

/-- What a mapping written as entries holds under a key is the last of its values there. -/
theorem find?_ofList_eq_getLast? [LawfulBEq κ] (es : List (κ × α)) (q : κ) :
    find? (ofList es) q = ((es.filter fun e => e.1 == q).map Prod.snd).getLast? := by
  rw [find?_ofList (rigid_of_lawful q)]
  induction es using List.reverseRecOn with
  | nil => rfl
  | append_singleton es e ih =>
      rw [List.reverse_append, List.reverse_singleton, List.singleton_append, find?, ih,
        List.filter_append]
      by_cases hkey : (e.1 == q) = true
      · simp [hkey]
      · simp [hkey]

/-- What is bound under a key is the value of its last entry. -/
theorem exists_of_find?_ofList [LawfulBEq κ] {es : List (κ × α)} {q : κ} {v : α}
    (h : find? (ofList es) q = some v) :
    ∃ before after, es = before ++ (q, v) :: after ∧ q ∉ keys after := by
  rw [find?_ofList (rigid_of_lawful q)] at h
  induction es using List.reverseRecOn with
  | nil => cases h
  | append_singleton es e ih =>
      rw [List.reverse_append, List.reverse_singleton, List.singleton_append, find?] at h
      split at h
      · next hq =>
          cases h
          exact ⟨es, [], by rw [← beq_iff_eq.1 hq], List.not_mem_nil⟩
      · next hq =>
          obtain ⟨before, after, rfl, hnot⟩ := ih h
          refine ⟨before, after ++ [e], by simp, fun hmem => ?_⟩
          rw [keys, List.map_append, List.mem_append] at hmem
          rcases hmem with hmem | hmem
          · exact hnot hmem
          · exact hq (beq_iff_eq.2 (List.mem_singleton.1 hmem).symm)

/-- Overriding is writing the new entries behind the old ones. -/
theorem update_ofList (es fs : List (κ × α)) : update (ofList es) fs = ofList (es ++ fs) := by
  rw [ofList, ofList, update, update, update, List.foldl_append]

/-! ## Mappings that hold each key once -/

/-- No key equals one that stands before it. -/
def Distinct (m : List (κ × α)) : Prop :=
  (keys m).Pairwise fun k l => (k == l) = false

theorem Distinct.tail {e : κ × α} {m : List (κ × α)} (h : Distinct (e :: m)) : Distinct m :=
  List.Pairwise.of_cons h

theorem Distinct.insert {m : List (κ × α)} (h : Distinct m) (k : κ) (v : α) :
    Distinct (insert m k v) := by
  rw [Distinct, keys_insert]
  split
  · exact h
  · next hnew =>
      refine List.pairwise_append.2 ⟨h, List.pairwise_singleton .., fun l hl k' hk' => ?_⟩
      rw [List.mem_singleton.1 hk', Bool.eq_false_iff]
      exact fun hbeq => hnew (has_eq_true.2 ⟨l, hl, hbeq⟩)

theorem Distinct.update {m : List (κ × α)} (h : Distinct m) (n : List (κ × α)) :
    Distinct (update m n) := by
  induction n generalizing m with
  | nil => exact h
  | cons e rest ih => exact ih (h.insert e.1 e.2)

theorem distinct_ofList (es : List (κ × α)) : Distinct (ofList es) :=
  Distinct.update (m := []) List.Pairwise.nil es

/-- A value of a mapping after a binding is the new one, or one of those before. -/
theorem mem_values_insert {m : List (κ × α)} {k : κ} {v w : α} (h : w ∈ values (insert m k v)) :
    w = v ∨ w ∈ values m := by
  induction m with
  | nil => exact .inl (List.mem_singleton.1 h)
  | cons e rest ih =>
      rw [Ordered.insert] at h
      split at h
      · rcases List.mem_cons.1 h with rfl | hrest
        · exact .inl rfl
        · exact .inr (List.mem_cons_of_mem _ hrest)
      · rcases List.mem_cons.1 h with rfl | hrest
        · exact .inr (List.mem_cons_self ..)
        · exact (ih hrest).imp_right (List.mem_cons_of_mem _)

theorem mem_values_update {m n : List (κ × α)} {w : α} (h : w ∈ values (update m n)) :
    w ∈ values n ∨ w ∈ values m := by
  induction n generalizing m with
  | nil => exact .inr h
  | cons e rest ih =>
      rcases ih h with hrest | hinsert
      · exact .inl (List.mem_cons_of_mem _ hrest)
      · rcases mem_values_insert hinsert with rfl | hm
        · exact .inl (List.mem_cons_self ..)
        · exact .inr hm

theorem mem_values_ofList {es : List (κ × α)} {w : α} (h : w ∈ values (ofList es)) :
    w ∈ values es :=
  (mem_values_update h).resolve_right List.not_mem_nil

/-- Binding a key that is not bound puts it last. -/
theorem insert_of_has_eq_false {m : List (κ × α)} {k : κ} (h : has m k = false) (v : α) :
    insert m k v = m ++ [(k, v)] := by
  induction m with
  | nil => rfl
  | cons e rest ih =>
      rw [has, List.any_cons, Bool.or_eq_false_iff] at h
      rw [Ordered.insert, if_neg (by simp [h.1]), ih h.2, List.cons_append]

/-- Entries with different keys are a mapping as they stand. -/
theorem ofList_eq_self {es : List (κ × α)} (h : Distinct es) : ofList es = es := by
  induction es using List.reverseRecOn with
  | nil => rfl
  | append_singleton es e ih =>
      have hstep : ofList (es ++ [e]) = Ordered.insert (ofList es) e.1 e.2 := by
        simp [ofList, Ordered.update]
      rw [Distinct, keys, List.map_append, List.pairwise_append] at h
      obtain ⟨hes, -, hnew⟩ := h
      have hhas : has es e.1 = false := by
        rw [Bool.eq_false_iff, Ne, has_eq_true]
        rintro ⟨k, hk, hbeq⟩
        rw [hnew k hk e.1 (List.mem_singleton_self _)] at hbeq
        cases hbeq
      rw [hstep, ih hes, insert_of_has_eq_false hhas]

theorem distinct_of_nodup [LawfulBEq κ] {m : List (κ × α)} (h : (keys m).Nodup) : Distinct m :=
  h.imp fun hne => beq_eq_false_iff_ne.2 hne

/-- In a mapping written as entries a key has the value of its last entry. -/
theorem find?_ofList_of_last {q : κ} (hq : Rigid q) {before after : List (κ × α)} {v : α}
    (h : q ∉ keys after) : find? (ofList (before ++ (q, v) :: after)) q = some v := by
  have hnone : find? after.reverse q = none := by
    rw [Option.eq_none_iff_forall_ne_some]
    intro w hw
    exact h (List.mem_map.2 ⟨_, List.mem_reverse.1 (mem_of_find? hq hw), rfl⟩)
  rw [find?_ofList hq, List.reverse_append, List.reverse_cons, find?_append, find?_append, hnone]
  simp [find?, (hq.beq_left q).2 rfl]

/-- Of keys that are paired with values, each has the value of its last place. -/
theorem find?_ofList_zip_of_last {q : κ} (hq : Rigid q) {ks : List κ} {vs : List α} {v : α} {i : Nat}
    (hk : ks[i]? = some q) (hv : vs[i]? = some v) (h : q ∉ ks.drop (i + 1)) :
    find? (ofList (ks.zip vs)) q = some v := by
  have hrow : (ks.zip vs)[i]? = some (q, v) := List.getElem?_zip_eq_some.2 ⟨hk, hv⟩
  obtain ⟨hi, hrow⟩ := List.getElem?_eq_some_iff.1 hrow
  rw [← List.take_append_drop i (ks.zip vs), List.drop_eq_getElem_cons hi, hrow]
  refine find?_ofList_of_last hq fun hmem => ?_
  rw [keys, List.zip, List.drop_zipWith] at hmem
  obtain ⟨e, he, rfl⟩ := List.mem_map.1 hmem
  exact h (List.of_mem_zip he).1

/-- When different keys are paired with values, the keys find the values. -/
theorem mapM_find?_zip [LawfulBEq κ] {ks : List κ} {vs : List α} (hks : ks.Nodup)
    (hlength : ks.length = vs.length) : ks.mapM (find? (ks.zip vs)) = some vs := by
  -- the keys looked for may stand behind entries of other keys
  have hbehind (taken : List (κ × α)) (htaken : ∀ k ∈ ks, find? taken k = none) :
      ks.mapM (find? (taken ++ ks.zip vs)) = some vs := by
    induction ks generalizing vs taken with
    | nil =>
        rw [List.length_eq_zero_iff.1 hlength.symm]
        rfl
    | cons k rest ih =>
        obtain ⟨v, vs, rfl⟩ := List.exists_cons_of_length_eq_add_one hlength.symm
        obtain ⟨hk, hrest⟩ := List.nodup_cons.1 hks
        obtain ⟨hnone, htaken⟩ := List.forall_mem_cons.1 htaken
        have htail := ih hrest (Nat.succ.inj hlength) (taken ++ [(k, v)]) (by
          intro l hl
          have hne : ¬ k = l := fun he => hk (he ▸ hl)
          rw [find?_append, htaken l hl]
          simp [find?, hne])
        rw [List.append_assoc, List.singleton_append] at htail
        rw [List.mapM_cons, List.zip_cons_cons, htail, find?_append, hnone]
        simp [find?]
  exact hbehind [] fun k _ => rfl

/-! ## Mappings of the same keys with related values -/

section Related

variable {β : Type} {R : α → β → Prop} {m : List (κ × α)} {n : List (κ × β)}

theorem forall₂_insert (h : List.Forall₂ (fun a b => a.1 = b.1 ∧ R a.2 b.2) m n) (k : κ) {v : α}
    {w : β} (hvw : R v w) :
    List.Forall₂ (fun a b => a.1 = b.1 ∧ R a.2 b.2) (insert m k v) (insert n k w) := by
  induction h with
  | nil => exact .cons ⟨rfl, hvw⟩ .nil
  | cons hab hrest ih =>
      obtain ⟨hkey, hvalue⟩ := hab
      rw [insert, insert, hkey]
      split
      · exact .cons ⟨rfl, hvw⟩ hrest
      · exact .cons ⟨rfl, hvalue⟩ ih

theorem forall₂_ofList (h : List.Forall₂ (fun a b => a.1 = b.1 ∧ R a.2 b.2) m n) :
    List.Forall₂ (fun a b => a.1 = b.1 ∧ R a.2 b.2) (ofList m) (ofList n) := by
  suffices hupdate : ∀ {before : List (κ × α)} {before' : List (κ × β)},
      List.Forall₂ (fun a b => a.1 = b.1 ∧ R a.2 b.2) before before' →
      List.Forall₂ (fun a b => a.1 = b.1 ∧ R a.2 b.2) (update before m) (update before' n) from
    hupdate .nil
  induction h with
  | nil => exact id
  | @cons a b _ _ hab _ ih =>
      obtain ⟨k, v⟩ := a
      obtain ⟨l, w⟩ := b
      obtain ⟨rfl, hvalue⟩ := hab
      intro before before' hbefore
      exact ih (forall₂_insert hbefore k hvalue)

/-- Under each key the one holds something exactly when the other does, and then related values. -/
theorem find?_rel (h : List.Forall₂ (fun a b => a.1 = b.1 ∧ R a.2 b.2) m n) (q : κ) :
    Option.Rel R (find? m q) (find? n q) := by
  induction h with
  | nil => exact .none
  | @cons a b _ _ hab _ ih =>
      obtain ⟨hkey, hvalue⟩ := hab
      rw [find?, find?, hkey]
      split
      · exact .some hvalue
      · exact ih

end Related

/-! ## Mappings with other keys and values -/

section Converted

variable {ι β : Type} [BEq ι] {g : κ → ι} (hg : ∀ k l, (g k == g l) = (k == l)) (f : α → β)
  (m : List (κ × α)) (k : κ)
include hg

/-- Looking up comes to the same before and after keys are replaced one for one. -/
theorem find?_converted :
    find? (m.map fun e => (g e.1, f e.2)) (g k) = (find? m k).map f := by
  induction m with
  | nil => rfl
  | cons e rest ih =>
      rw [List.map_cons, find?, find?, hg]
      split
      · rfl
      · exact ih

/-- So does binding. -/
theorem insert_converted (v : α) :
    (insert m k v).map (fun e => (g e.1, f e.2))
      = insert (m.map fun e => (g e.1, f e.2)) (g k) (f v) := by
  induction m with
  | nil => rfl
  | cons e rest ih =>
      rw [List.map_cons, insert, insert, hg]
      split
      · rfl
      · rw [List.map_cons, ih]

end Converted

/-! ## Mappings that are computed key by key -/

section Keyed

variable [LawfulBEq κ] [DecidableEq κ]

theorem find?_keyed (ks : List κ) (f : κ → α) (q : κ) :
    find? (ks.map fun k => (k, f k)) q = if q ∈ ks then some (f q) else none := by
  induction ks with
  | nil => simp [find?]
  | cons k rest ih =>
      simp only [List.map_cons, find?, beq_iff_eq, List.mem_cons]
      by_cases hk : k = q
      · subst hk
        simp
      · have hq : (q = k ∨ q ∈ rest) ↔ q ∈ rest := or_iff_right fun he => hk he.symm
        rw [if_neg hk, ih, if_congr hq rfl rfl]

/-- Binding a new key extends such a mapping at its end. -/
theorem insert_keyed_of_not_mem {ks : List κ} {k : κ} (h : k ∉ ks) (f : κ → α) (v : α) :
    insert (ks.map fun k => (k, f k)) k v = (ks.map fun k => (k, f k)) ++ [(k, v)] := by
  induction ks with
  | nil => rfl
  | cons k' rest ih =>
      simp only [List.mem_cons, not_or] at h
      obtain ⟨hne, hrest⟩ := h
      simp only [List.map_cons, insert, beq_iff_eq, List.cons_append]
      rw [if_neg fun he => hne he.symm, ih hrest]

/-- Binding a key that is there already changes its value in place. -/
theorem insert_keyed_of_mem {ks : List κ} {k : κ} (hnod : ks.Nodup) (h : k ∈ ks) (f : κ → α)
    (v : α) :
    insert (ks.map fun k => (k, f k)) k v
      = ks.map fun k' => (k', if k' = k then v else f k') := by
  induction ks with
  | nil => simp at h
  | cons k' rest ih =>
      obtain ⟨hnotin, hnod'⟩ := List.nodup_cons.1 hnod
      simp only [List.map_cons, insert, beq_iff_eq]
      by_cases hk : k' = k
      · subst hk
        rw [if_pos rfl, if_pos rfl]
        congr 1
        apply List.map_congr_left
        intro k'' hk''
        have hne : ¬ k'' = k' := fun he => hnotin (he ▸ hk'')
        rw [if_neg hne]
      · rw [if_neg hk, if_neg hk]
        rcases List.mem_cons.1 h with he | hmem
        · exact absurd he.symm hk
        · rw [ih hnod' hmem]

end Keyed

end ApiRouter.Ordered

namespace ApiRouter

/-! ## Entries of documents -/

/-- A text is the same key as itself and as nothing else. -/
theorem Scalar.rigid_text (s : String) : Ordered.Rigid (Scalar.text s) where
  beq_left k := by
    cases k <;> simp [BEq.beq, Scalar.same, Scalar.number?]
  beq_right k := by
    cases k <;> simp [BEq.beq, Scalar.same, Scalar.number?, eq_comm]

theorem Scalar.text_beq (k l : String) : (Scalar.text k == Scalar.text l) = (k == l) := by
  rw [Bool.eq_iff_iff, (Scalar.rigid_text l).beq_left, Scalar.text.injEq, beq_iff_eq]

theorem Scalar.rigid_null : Ordered.Rigid Scalar.null where
  beq_left k := by
    cases k <;> simp [BEq.beq, Scalar.same, Scalar.number?]
  beq_right k := by
    cases k <;> simp [BEq.beq, Scalar.same, Scalar.number?]

theorem Scalar.rigid_bytes (b : List UInt8) : Ordered.Rigid (Scalar.bytes b) where
  beq_left k := by
    cases k <;> simp [BEq.beq, Scalar.same, Scalar.number?]
  beq_right k := by
    cases k <;> simp [BEq.beq, Scalar.same, Scalar.number?, eq_comm]

namespace Entries

theorem has_eq_isSome (m : Entries) (k : String) : m.has k = (m.find? k).isSome :=
  Ordered.has_eq_isSome m (.text k)

theorem find?_eq_none_of_has {m : Entries} {k : String} (h : m.has k = false) :
    m.find? k = none := by
  rw [has_eq_isSome, Option.isSome_eq_false_iff] at h
  exact Option.isNone_iff_eq_none.1 h

/-- What is found under a text after binding another or the same one. -/
theorem find?_insert (m : Entries) (k q : String) (v : Value) :
    (m.insert k v).find? q = if k = q then some v else m.find? q := by
  rw [Entries.find?, Entries.insert, Ordered.find?_insert (Scalar.rigid_text q)]
  by_cases hk : k = q
  · subst hk
    rw [if_pos ((Scalar.rigid_text k).beq_left _ |>.2 rfl), if_pos rfl]
  · rw [if_neg fun h => hk (Scalar.text.inj ((Scalar.rigid_text q).beq_left _ |>.1 h)), if_neg hk,
      Entries.find?]

/-- A mapping with text keys is looked into under its texts. -/
theorem find?_object {α : Type} (m : List (String × α)) (q : String) :
    Ordered.find? (m.map fun e => (Scalar.text e.1, e.2)) (.text q) = Ordered.find? m q := by
  rw [Ordered.find?_converted Scalar.text_beq fun v : α => v, Option.map_id']

@[simp]
theorem get_insert_self (m : Entries) (k : String) (v : Value) : (m.insert k v).get k = v := by
  simp [Entries.get, find?_insert]

end Entries

/-! ## Mappings of texts in documents -/

namespace Entries

theorem find?_cons (k q : String) (v : Value) (m : Entries) :
    Entries.find? ((.text k, v) :: m) q = if k = q then some v else Entries.find? m q := by
  rw [Entries.find?, Ordered.find?, Scalar.text_beq, Entries.find?]
  simp only [beq_iff_eq]

/-- Binding a text comes to the same before and after a mapping of texts is put into a document. -/
theorem insert_texts {α β : Type} (f : α → β) (m : List (String × α)) (k : String) (v : α) :
    (Ordered.insert m k v).map (fun e => (Scalar.text e.1, f e.2))
      = Ordered.insert (m.map fun e => (Scalar.text e.1, f e.2)) (.text k) (f v) :=
  Ordered.insert_converted Scalar.text_beq f m k v

variable (f : String → Option Value)

/-- The rows of the keywords that have a value. -/
def rowsOf (ks : List String) : Entries :=
  ks.filterMap fun k => (f k).map fun v => (Scalar.text k, v)

theorem rowsOf_cons (k : String) (ks : List String) :
    rowsOf f (k :: ks) = ((f k).map fun v => (Scalar.text k, v)).toList ++ rowsOf f ks := by
  cases hk : f k with
  | none => rw [rowsOf, List.filterMap_cons_none (by simp [hk])]; rfl
  | some v => rw [rowsOf, List.filterMap_cons_some (by simp only [hk]; rfl)]; rfl

theorem keys_rowsOf (ks : List String) :
    Ordered.keys (rowsOf f ks) = (ks.filter fun k => (f k).isSome).map .text := by
  induction ks with
  | nil => rfl
  | cons k rest ih =>
      rw [rowsOf_cons]
      cases hk : f k with
      | none =>
          rw [List.filter_cons_of_neg (by simp [hk])]
          exact ih
      | some v =>
          rw [List.filter_cons_of_pos (by simp [hk]), List.map_cons, ← ih]
          rfl

theorem find?_rowsOf (ks : List String) (q : String) :
    Entries.find? (rowsOf f ks) q = if q ∈ ks then f q else none := by
  induction ks with
  | nil => rfl
  | cons k rest ih =>
      rw [rowsOf_cons]
      by_cases hkq : k = q
      · subst hkq
        rw [if_pos (List.mem_cons_self ..)]
        cases hk : f k with
        | none =>
            rw [hk, ite_self] at ih
            exact ih
        | some v => exact (find?_cons k k v _).trans (if_pos rfl)
      · have hmem : q ∈ k :: rest ↔ q ∈ rest := by simp [Ne.symm hkq]
        rw [if_congr hmem rfl rfl, ← ih]
        cases hk : f k with
        | none => rfl
        | some v => exact (find?_cons k q v _).trans (if_neg hkq)

end Entries

end ApiRouter

import ApiRouter.Proofs.Ordered
import ApiRouter.Proofs.Outcome
import Mathlib.Data.List.Forall2
import Mathlib.Data.List.Induction
import Mathlib.Data.List.TakeWhile
import Mathlib.Data.List.Zip

set_option autoImplicit false

/-! # Rows: cuts, the first of a kind, and groups

Reading a text takes off what stands before the first character of some kind. Looking something up among routes is searching a row for the first item of a kind. Filing routes
by method is grouping a row by a key. These are described here without the functions that do it. -/

namespace ApiRouter

variable {α β γ κ : Type}

/-- In related rows every item has its counterpart. -/
theorem exists_of_forall₂ {R : α → β → Prop} {as : List α} {bs : List β}
    (h : List.Forall₂ R as bs) {a : α} (ha : a ∈ as) : ∃ b, b ∈ bs ∧ R a b := by
  induction h with
  | nil => simp at ha
  | cons hab _ ih =>
      rcases List.mem_cons.1 ha with rfl | ha
      · exact ⟨_, List.mem_cons_self .., hab⟩
      · obtain ⟨b, hb, hr⟩ := ih ha
        exact ⟨b, List.mem_cons_of_mem _ hb, hr⟩

theorem forall₂_trans {R : α → β → Prop} {S : β → γ → Prop} {T : α → γ → Prop} {as : List α}
    {bs : List β} {cs : List γ} (hR : List.Forall₂ R as bs) (hS : List.Forall₂ S bs cs)
    (h : ∀ a b c, R a b → S b c → T a c) : List.Forall₂ T as cs := by
  induction hR generalizing cs with
  | nil =>
      cases hS
      exact .nil
  | cons hab _ ih =>
      obtain ⟨c, rest, hbc, hrest, rfl⟩ := List.forall₂_cons_left_iff.1 hS
      exact .cons (h _ _ _ hab hbc) (ih hrest)

/-- Beside rows of one length, every item of the second has its counterpart in the first. -/
theorem exists_mem_zip {as : List α} {bs : List β} (h : as.length = bs.length) {b : β}
    (hb : b ∈ bs) : ∃ a, (a, b) ∈ as.zip bs := by
  rw [← List.map_snd_zip (Nat.le_of_eq h.symm)] at hb
  obtain ⟨⟨a, b'⟩, hmem, rfl⟩ := List.mem_map.1 hb
  exact ⟨a, hmem⟩

/-- Beside rows of one length, every item of the first has its counterpart in the second. -/
theorem exists_mem_zip_left {as : List α} {bs : List β} (h : as.length = bs.length) {a : α}
    (ha : a ∈ as) : ∃ b, (a, b) ∈ as.zip bs := by
  rw [← List.map_fst_zip (Nat.le_of_eq h)] at ha
  obtain ⟨⟨a', b⟩, hmem, rfl⟩ := List.mem_map.1 ha
  exact ⟨b, hmem⟩

/-- What is related to some item, and therefore to itself, makes up a row that is related to
    itself. -/
theorem forall₂_again {R : α → α → Prop} {as bs : List α} (h : List.Forall₂ R as bs)
    (hR : ∀ a b, R a b → R b b) : List.Forall₂ R bs bs := by
  induction h with
  | nil => exact .nil
  | cons hab _ ih => exact .cons (hR _ _ hab) ih

theorem eq_of_mem_zip_self {as : List α} {p : α × α} (h : p ∈ as.zip as) : p.1 = p.2 := by
  induction as with
  | nil => cases h
  | cons a rest ih =>
      rcases List.mem_cons.1 h with rfl | h
      · rfl
      · exact ih h

/-! ## Cuts

A row is cut where a condition ends: all items before the cut hold it, and the item behind the cut, if
there is one, does not. -/

section Cuts

variable {p : α → Bool} {as bs : List α}

theorem takeWhile_append_of_stop (hall : ∀ a ∈ as, p a = true)
    (hstop : ∀ b ∈ bs.head?, p b = false) : (as ++ bs).takeWhile p = as := by
  rw [List.takeWhile_append_of_pos hall]
  cases bs with
  | nil => rw [List.takeWhile_nil, List.append_nil]
  | cons b bs => rw [List.takeWhile_cons_of_neg (by simp [hstop b rfl]), List.append_nil]

theorem dropWhile_append_of_stop (hall : ∀ a ∈ as, p a = true)
    (hstop : ∀ b ∈ bs.head?, p b = false) : (as ++ bs).dropWhile p = bs := by
  rw [List.dropWhile_append_of_pos hall]
  cases bs with
  | nil => rfl
  | cons b bs => rw [List.dropWhile_cons_of_neg (by simp [hstop b rfl])]

theorem stop_dropWhile (p : α → Bool) (as : List α) : ∀ a ∈ (as.dropWhile p).head?, p a = false := by
  intro a ha
  have hnot := List.head?_dropWhile_not p as
  rw [Option.mem_def.1 ha] at hnot
  exact hnot

end Cuts

/-! ## The first item of a kind -/

/-- `a` is the first of the items that has the property. -/
inductive First (p : α → Prop) : List α → α → Prop
  | here {a : α} {rest : List α} (h : p a) : First p (a :: rest) a
  | later {b a : α} {rest : List α} (hb : ¬ p b) (h : First p rest a) : First p (b :: rest) a

namespace First

variable {p : α → Prop} {items : List α} {a : α}

theorem holds (h : First p items a) : p a := by
  induction h with
  | here h => exact h
  | later _ _ ih => exact ih

theorem mem (h : First p items a) : a ∈ items := by
  induction h with
  | here _ => exact List.mem_cons_self ..
  | later _ _ ih => exact List.mem_cons_of_mem _ ih

/-- There is one first item of a kind at most. -/
theorem unique {b : α} (h : First p items a) (h' : First p items b) : a = b := by
  induction h with
  | here ha =>
      cases h' with
      | here => rfl
      | later hnot => exact absurd ha hnot
  | later hnot _ ih =>
      cases h' with
      | here hb => exact absurd hb hnot
      | later _ hb => exact ih hb

/-- A search to which the items of a kind answer ends at the first of them. -/
theorem findSome?_eq {f : α → Option β} (h : First p items a) (hp : ∀ b, (f b).isSome → p b)
    (ha : (f a).isSome) : items.findSome? f = f a := by
  induction h with
  | here _ =>
      obtain ⟨b, hb⟩ := Option.isSome_iff_exists.1 ha
      rw [List.findSome?_cons, hb]
  | @later x a rest hx _ ih =>
      have hnone : f x = none := by
        cases hfx : f x with
        | none => rfl
        | some b => exact absurd (hp x (by rw [hfx]; rfl)) hx
      rw [List.findSome?_cons, hnone]
      exact ih ha

/-- Where there is an item of a kind there is a first one. -/
theorem exists_of_mem (ha : a ∈ items) (h : p a) : ∃ b, First p items b := by
  induction items with
  | nil => simp at ha
  | cons x rest ih =>
      by_cases hx : p x
      · exact ⟨x, .here hx⟩
      · rcases List.mem_cons.1 ha with rfl | ha
        · exact absurd h hx
        · obtain ⟨b, hb⟩ := ih ha
          exact ⟨b, .later hx hb⟩

/-- A search ends at the first item that it looks for. -/
theorem find?_eq_some {q : α → Bool} {items : List α} {a : α} :
    items.find? q = some a ↔ First (fun b => q b = true) items a := by
  induction items with
  | nil =>
      constructor
      · intro h
        cases h
      · intro h
        cases h
  | cons x rest ih =>
      by_cases hx : q x = true
      · rw [List.find?_cons_of_pos hx]
        constructor
        · rintro ⟨⟩
          exact .here hx
        · intro h
          cases h with
          | here _ => rfl
          | later hn _ => exact absurd hx hn
      · rw [List.find?_cons_of_neg hx, ih]
        constructor
        · exact .later hx
        · intro h
          cases h with
          | here h => exact absurd h hx
          | later _ h => exact h

/-- Searching among the items of one kind only is searching for one that is also of that kind. -/
theorem filter_iff (q : α → Prop) [DecidablePred q] :
    First p (items.filter q) a ↔ First (fun b => q b ∧ p b) items a := by
  induction items with
  | nil =>
      constructor
      · intro h
        cases h
      · intro h
        cases h
  | cons x rest ih =>
      by_cases hq : q x
      · rw [List.filter_cons_of_pos (by simpa using hq)]
        constructor
        · intro h
          cases h with
          | here h => exact .here ⟨hq, h⟩
          | later hn h => exact .later (fun hx => hn hx.2) (ih.1 h)
        · intro h
          cases h with
          | here h => exact .here h.2
          | later hn h => exact .later (fun hp => hn ⟨hq, hp⟩) (ih.2 h)
      · rw [List.filter_cons_of_neg (by simpa using hq), ih]
        constructor
        · exact fun h => .later (fun hx => hq hx.1) h
        · intro h
          cases h with
          | here h => exact absurd h.1 hq
          | later _ h => exact h

/-- A search through a row finds what its first item of a kind gives, when it is the items of that
    kind that give something and each gives what its counterpart in another row does. -/
theorem findSome?_eq_some {R : α → β → Prop} {f : β → Option γ} {as : List α} {bs : List β}
    (h : List.Forall₂ R as bs) (hfun : ∀ a b b', R a b → R a b' → b = b')
    (hf : ∀ a b, R a b → (p a ↔ (f b).isSome)) (c : γ) :
    bs.findSome? f = some c ↔ ∃ a b, First p as a ∧ R a b ∧ f b = some c := by
  induction h with
  | nil =>
      constructor
      · intro h
        cases h
      · rintro ⟨a, b, h, -⟩
        cases h
  | @cons a b as bs hab _ ih =>
      rw [List.findSome?_cons]
      cases hb : f b with
      | some c' =>
          have hp : p a := (hf a b hab).2 (by rw [hb]; rfl)
          constructor
          · rintro ⟨⟩
            exact ⟨a, b, .here hp, hab, hb⟩
          · rintro ⟨a', b', hfirst, hab', hb'⟩
            cases hfirst with
            | here _ =>
                rw [← hfun a b b' hab hab', hb] at hb'
                exact hb'
            | later hn _ => exact absurd hp hn
      | none =>
          have hp : ¬ p a := fun h => by simpa [hb] using (hf a b hab).1 h
          constructor
          · intro h
            obtain ⟨a', b', hfirst, hrest⟩ := ih.1 h
            exact ⟨a', b', .later hp hfirst, hrest⟩
          · rintro ⟨a', b', hfirst, hrest⟩
            cases hfirst with
            | here h => exact absurd h hp
            | later _ hfirst => exact ih.2 ⟨a', b', hfirst, hrest⟩

theorem findSome?_eq_none {R : α → β → Prop} {f : β → Option γ} {as : List α} {bs : List β}
    (h : List.Forall₂ R as bs) (hf : ∀ a b, R a b → (p a ↔ (f b).isSome)) :
    bs.findSome? f = none ↔ ∀ a ∈ as, ¬ p a := by
  induction h with
  | nil => simp
  | @cons a b as bs hab _ ih =>
      rw [List.findSome?_cons, List.forall_mem_cons, ← ih, hf a b hab]
      cases f b <;> simp

/-- A traversal fails as its first step that fails does. -/
theorem mapM_eq_error {ε : Type} {f : α → Except ε β} {fails : α → ε}
    (hf : ∀ x e, f x = .error e ↔ p x ∧ e = fails x) {e : ε} :
    items.mapM f = .error e ↔ ∃ x, First p items x ∧ e = fails x := by
  induction items with
  | nil =>
      constructor
      · intro h
        cases h
      · rintro ⟨x, hx, -⟩
        cases hx
  | cons x rest ih =>
      rw [List.mapM_cons, Outcome.bind_eq_error]
      cases hx : f x with
      | error e' =>
          obtain ⟨hp, rfl⟩ := (hf x e').1 hx
          constructor
          · rintro (h | ⟨y, h, -⟩)
            · cases h
              exact ⟨x, .here hp, rfl⟩
            · cases h
          · rintro ⟨y, hy, rfl⟩
            cases hy with
            | here _ => exact .inl rfl
            | later hn _ => exact absurd hp hn
      | ok y =>
          have hnot : ¬ p x := fun hp => by
            rw [(hf x (fails x)).2 ⟨hp, rfl⟩] at hx
            cases hx
          constructor
          · rintro (h | ⟨y', -, h⟩)
            · cases h
            · rcases Outcome.bind_eq_error.1 h with h | ⟨ys, -, h⟩
              · obtain ⟨z, hz, he⟩ := ih.1 h
                exact ⟨z, .later hnot hz, he⟩
              · cases h
          · rintro ⟨z, hz, he⟩
            cases hz with
            | here hp => exact absurd hp hnot
            | later _ hz => exact .inr ⟨y, rfl, Outcome.bind_eq_error.2 (.inl (ih.2 ⟨z, hz, he⟩))⟩

/-- Checks that are made in a row, each of which is settled once those before it have passed, all
    pass when each does, and else end with the error of the first that does not. -/
theorem forM_settled {ε : Type} {f : α → Except ε Unit} {blames : α → ε → Prop}
    (hf : ∀ before x after, items = before ++ x :: after → (∀ b ∈ before, p b) →
      (p x → f x = .ok ()) ∧ (¬ p x → ∃ e, f x = .error e ∧ blames x e)) :
    (forM items f = .ok () ↔ ∀ x ∈ items, p x) ∧
      ∀ x, First (fun y => ¬ p y) items x → ∃ e, forM items f = .error e ∧ blames x e := by
  induction items with
  | nil =>
      refine ⟨by simp [pure, Except.pure], fun x h => ?_⟩
      cases h
  | cons x rest ih =>
      obtain ⟨hpass, hfail⟩ := hf [] x rest rfl (by simp)
      rw [List.forM_cons, List.forall_mem_cons]
      by_cases hp : p x
      · have hrest := ih fun before y after he hb => hf (x :: before) y after (by rw [he]; rfl)
          (List.forall_mem_cons.2 ⟨hp, hb⟩)
        rw [hpass hp]
        refine ⟨hrest.1.trans (and_iff_right hp).symm, fun y hy => ?_⟩
        cases hy with
        | here hn => exact absurd hp hn
        | later _ hy => exact hrest.2 y hy
      · obtain ⟨e, he, hblames⟩ := hfail hp
        rw [he]
        constructor
        · constructor
          · intro h
            cases h
          · exact fun h => absurd h.1 hp
        · intro y hy
          cases hy with
          | here _ => exact ⟨e, rfl, hblames⟩
          | later hn _ => exact absurd hp hn

end First

/-- Searching among the items of one kind is searching where the others give nothing. -/
theorem findSome?_filter (q : α → Bool) (f : α → Option β) (items : List α) :
    (items.filter q).findSome? f = items.findSome? fun a => if q a then f a else none := by
  induction items with
  | nil => rfl
  | cons a rest ih =>
      by_cases hq : q a = true
      · rw [List.filter_cons_of_pos hq, List.findSome?_cons, List.findSome?_cons, if_pos hq, ih]
      · rw [List.filter_cons_of_neg hq, List.findSome?_cons, if_neg hq, ih]

/-- Searches that give the same for every item give the same. -/
theorem findSome?_congr {f g : α → Option β} {items : List α} (h : ∀ a ∈ items, f a = g a) :
    items.findSome? f = items.findSome? g := by
  induction items with
  | nil => rfl
  | cons a rest ih =>
      rw [List.forall_mem_cons] at h
      rw [List.findSome?_cons, List.findSome?_cons, h.1, ih h.2]

/-- What the first item of a kind is turned into, as a search. -/
theorem map_find? (q : α → Bool) (f : α → β) (items : List α) :
    (items.find? q).map f = items.findSome? fun a => if q a then some (f a) else none := by
  induction items with
  | nil => rfl
  | cons a rest ih =>
      rw [List.findSome?_cons]
      by_cases hq : q a = true
      · rw [List.find?_cons_of_pos hq, if_pos hq]
        rfl
      · rw [List.find?_cons_of_neg hq, if_neg hq]
        exact ih

/-! ## Groups -/

section Grouped

variable [BEq κ] [LawfulBEq κ] [DecidableEq κ]

/-- The items by key: keys in the order of their first use, the items of a key in order. -/
def grouped (key : α → κ) (items : List α) : List (κ × List α) :=
  (items.map key).eraseDups.map fun k => (k, items.filter fun a => key a == k)

omit [DecidableEq κ] in
theorem nodup_eraseDups (ks : List κ) : ks.eraseDups.Nodup := by
  induction hn : ks.length using Nat.strongRecOn generalizing ks with
  | _ n ih =>
      cases ks with
      | nil => simp
      | cons k rest =>
          rw [List.eraseDups_cons, List.nodup_cons]
          constructor
          · simp
          · have hlen : (rest.filter fun b => !b == k).length < n := by
              have := List.length_filter_le (fun b => !b == k) rest
              simp only [List.length_cons] at hn
              omega
            exact ih _ hlen _ rfl

omit [DecidableEq κ] in
/-- An item that came before changes nothing. -/
theorem eraseDups_append_cons_of_mem {ks ls : List κ} {k : κ} (h : k ∈ ks) :
    (ks ++ k :: ls).eraseDups = (ks ++ ls).eraseDups := by
  have hremoved : (k :: ls).removeAll ks = ls.removeAll ks := by
    simp [List.removeAll, h]
  rw [List.eraseDups_append, List.eraseDups_append, hremoved]

omit [DecidableEq κ] in
/-- A search does not come to what has come before. -/
theorem find?_eraseDups (q : κ → Bool) (ks : List κ) : ks.eraseDups.find? q = ks.find? q := by
  induction ks using List.reverseRecOn with
  | nil => rfl
  | append_singleton ks k ih =>
      rw [List.eraseDups_append, List.find?_append, List.find?_append, ih]
      by_cases hk : k ∈ ks
      · have hremoved : [k].removeAll ks = [] := by simp [List.removeAll, hk]
        rw [hremoved]
        cases hfind : ks.find? q with
        | some a => rfl
        | none =>
            have hnot : q k = false := by simpa using List.find?_eq_none.1 hfind k hk
            simp [hnot]
      · have hkept : [k].removeAll ks = [k] := by simp [List.removeAll, hk]
        rw [hkept]
        rfl

omit [DecidableEq κ] in
theorem eraseDups_map {ι : Type} [BEq ι] [LawfulBEq ι] {f : κ → ι} (hf : Function.Injective f)
    (ks : List κ) : (ks.map f).eraseDups = ks.eraseDups.map f := by
  induction hn : ks.length using Nat.strongRecOn generalizing ks with
  | _ n ih =>
      cases ks with
      | nil => simp
      | cons k rest =>
          have hfilter : (rest.map f).filter (fun b => !b == f k)
              = (rest.filter fun b => !b == k).map f := by
            rw [List.filter_map]
            congr 1
            apply List.filter_congr
            intro b _
            by_cases hb : b = k
            · simp [hb]
            · simp [hb, hf.ne hb]
          have hlen : (rest.filter fun b => !b == k).length < n := by
            have := List.length_filter_le (fun b => !b == k) rest
            simp only [List.length_cons] at hn
            omega
          rw [List.map_cons, List.eraseDups_cons, List.eraseDups_cons, List.map_cons, hfilter,
            ih _ hlen _ rfl]

omit [DecidableEq κ] in
/-- The keys of a mapping that is written as entries, in the order of their first use. -/
theorem keys_ofList (es : List (κ × α)) :
    Ordered.keys (Ordered.ofList es) = (Ordered.keys es).eraseDups := by
  induction es using List.reverseRecOn with
  | nil => rfl
  | append_singleton es e ih =>
      have hstep : Ordered.ofList (es ++ [e]) = Ordered.insert (Ordered.ofList es) e.1 e.2 := by
        simp [Ordered.ofList, Ordered.update]
      have hkeys : Ordered.keys (es ++ [e]) = Ordered.keys es ++ [e.1] := by simp [Ordered.keys]
      rw [hstep, Ordered.keys_insert, hkeys]
      split
      · next hhas =>
          obtain ⟨k, hk, he⟩ := Ordered.has_eq_true.1 hhas
          rw [beq_iff_eq.1 he, ih, List.mem_eraseDups] at hk
          rw [ih, eraseDups_append_cons_of_mem hk, List.append_nil]
      · next hhas =>
          have hnew : e.1 ∉ Ordered.keys es := fun hk =>
            hhas (Ordered.has_eq_true.2 ⟨e.1, by rwa [ih, List.mem_eraseDups], beq_self_eq_true _⟩)
          have hkept : [e.1].removeAll (Ordered.keys es) = [e.1] := by
            simpa [List.removeAll] using hnew
          rw [ih, List.eraseDups_append, hkept, List.eraseDups_cons]
          simp

/-- Filing one more item extends its group, or opens one at the end. -/
theorem insert_grouped (key : α → κ) (items : List α) (a : α) :
    Ordered.insert (grouped key items) (key a)
        ((Ordered.find? (grouped key items) (key a)).getD [] ++ [a])
      = grouped key (items ++ [a]) := by
  unfold grouped
  rw [Ordered.find?_keyed, List.map_append, List.eraseDups_append]
  -- a key that was used before keeps its place, a new one comes last
  by_cases hmem : key a ∈ (items.map key).eraseDups
  · have hmem' : key a ∈ items.map key := List.mem_eraseDups.1 hmem
    have hnone : ([key a].removeAll (items.map key)) = [] := by
      simpa [List.removeAll] using hmem'
    rw [if_pos hmem, Ordered.insert_keyed_of_mem (nodup_eraseDups _) hmem, List.map_singleton,
      hnone, List.eraseDups_nil, List.append_nil]
    apply List.map_congr_left
    intro k _
    rw [List.filter_append]
    by_cases hk : k = key a
    · subst hk
      simp
    · have hk' : ¬ key a = k := fun he => hk he.symm
      simp [hk, hk']
  · have hmem' : key a ∉ items.map key := fun h => hmem (List.mem_eraseDups.2 h)
    have hself : ([key a].removeAll (items.map key)) = [key a] := by
      simpa [List.removeAll] using hmem'
    have hempty : items.filter (fun b => key b == key a) = [] := by
      rw [List.filter_eq_nil_iff]
      intro b hb hkey
      exact hmem' (List.mem_map.2 ⟨b, hb, beq_iff_eq.1 hkey⟩)
    rw [if_neg hmem, Ordered.insert_keyed_of_not_mem hmem, List.map_singleton, hself,
      List.map_append]
    congr 1
    · apply List.map_congr_left
      intro k hk
      have hne : ¬ key a = k := fun he => hmem (he ▸ hk)
      rw [List.filter_append, List.filter_cons_of_neg (by simpa using hne), List.filter_nil,
        List.append_nil]
    · have hone : [key a].eraseDups = [key a] := by simp [List.eraseDups_cons]
      rw [hone, List.map_singleton, List.filter_append, hempty]
      simp

/-- Filing items one after the other groups them. -/
theorem foldl_insert_eq_grouped (key : α → κ) (items : List α) :
    items.foldl (fun m a => Ordered.insert m (key a) ((Ordered.find? m (key a)).getD [] ++ [a])) []
      = grouped key items := by
  induction items using List.reverseRecOn with
  | nil => rfl
  | append_singleton items a ih =>
      rw [List.foldl_append, ih, List.foldl_cons, List.foldl_nil, insert_grouped]

/-- The group of a key holds its items in order. -/
theorem find?_grouped (key : α → κ) (items : List α) (k : κ) :
    (Ordered.find? (grouped key items) k).getD [] = items.filter fun a => key a == k := by
  rw [grouped, Ordered.find?_keyed]
  split
  · rfl
  · next hmem =>
      rw [Option.getD_none, eq_comm, List.filter_eq_nil_iff]
      intro b hb hkey
      exact hmem (List.mem_eraseDups.2 (List.mem_map.2 ⟨b, hb, beq_iff_eq.1 hkey⟩))

omit [DecidableEq κ] in
/-- What is filed is what there was, and each group has the key that it is under. -/
theorem mem_grouped {key : α → κ} {items : List α} {e : κ × List α} (h : e ∈ grouped key items) :
    e.2 ≠ [] ∧ ∀ a ∈ e.2, a ∈ items ∧ key a = e.1 := by
  obtain ⟨k, hk, rfl⟩ := List.mem_map.1 h
  obtain ⟨b, hb, hkey⟩ := List.mem_map.1 (List.mem_eraseDups.1 hk)
  constructor
  · exact List.ne_nil_of_mem (List.mem_filter.2 ⟨hb, beq_iff_eq.2 hkey⟩)
  · intro a ha
    obtain ⟨ha, hkey⟩ := List.mem_filter.1 ha
    exact ⟨ha, beq_iff_eq.1 hkey⟩

omit [DecidableEq κ] in
/-- A search through all groups, to which only the items of one key answer, is one through the group
    of this key. -/
theorem findSome?_grouped {key : α → κ} {items : List α} {k : κ} {f : α → Option β}
    (hf : ∀ a, key a ≠ k → f a = none) :
    ((grouped key items).flatMap Prod.snd).findSome? f
      = (items.filter fun a => key a == k).findSome? f := by
  have hgroups (ks : List κ) :
      (ks.flatMap fun k' => items.filter fun a => key a == k').findSome? f
        = if ks.contains k then (items.filter fun a => key a == k).findSome? f else none := by
    induction ks with
    | nil => rfl
    | cons k' rest ih =>
        rw [List.flatMap_cons, List.findSome?_append, ih, List.contains_cons]
        by_cases hk : k' = k
        · subst hk
          cases hfound : (items.filter fun a => key a == k').findSome? f with
          | none => simp
          | some b => simp
        · have hnone : (items.filter fun a => key a == k').findSome? f = none := by
            rw [List.findSome?_eq_none_iff]
            intro a ha
            have hkey : key a = k' := beq_iff_eq.1 (List.mem_filter.1 ha).2
            exact hf a (hkey ▸ hk)
          have hne : (k == k') = false := beq_eq_false_iff_ne.2 (Ne.symm hk)
          rw [hnone, hne, Option.none_or, Bool.false_or]
  rw [grouped, List.flatMap_map, hgroups]
  split
  · rfl
  · next hnot =>
      rw [eq_comm, List.findSome?_eq_none_iff]
      intro a ha
      refine hf a fun hkey => hnot ?_
      rw [List.contains_iff_mem, List.mem_eraseDups, ← hkey]
      exact List.mem_map.2 ⟨a, (List.mem_filter.1 ha).1, rfl⟩

omit [DecidableEq κ] in
/-- The items of distinct keys, key by key, are all items, when these have no other keys. -/
theorem perm_flatMap_filter (key : α → κ) {ks : List κ} (hnod : ks.Nodup) {items : List α}
    (h : ∀ a ∈ items, key a ∈ ks) :
    (ks.flatMap fun k => items.filter fun a => key a == k).Perm items := by
  induction ks generalizing items with
  | nil =>
      have hnil : items = [] := List.eq_nil_iff_forall_not_mem.2 fun a ha => by simpa using h a ha
      simp [hnil]
  | cons k rest ih =>
      obtain ⟨hnotin, hnod'⟩ := List.nodup_cons.1 hnod
      have hothers : ∀ a ∈ items.filter (fun a => !(key a == k)), key a ∈ rest := by
        intro a ha
        obtain ⟨ha, hne⟩ := List.mem_filter.1 ha
        rcases List.mem_cons.1 (h a ha) with heq | hrest
        · simp [heq] at hne
        · exact hrest
      -- the groups of the other keys do not change when the items of `k` are taken out
      have hsame : (rest.flatMap fun k' => items.filter fun a => key a == k')
          = rest.flatMap fun k' => (items.filter fun a => !(key a == k)).filter
              fun a => key a == k' := by
        apply List.flatMap_congr
        intro k' hk'
        rw [List.filter_filter]
        apply List.filter_congr
        intro a _
        have hne : k' ≠ k := fun he => hnotin (he ▸ hk')
        by_cases hkey : key a = k'
        · simp [hkey, hne]
        · simp [hkey]
      rw [List.flatMap_cons, hsame]
      exact ((ih hnod' hothers).append_left _).trans (List.filter_append_perm _ _)

omit [DecidableEq κ] in
/-- Grouping loses nothing and repeats nothing. -/
theorem perm_grouped (key : α → κ) (items : List α) :
    ((grouped key items).flatMap Prod.snd).Perm items := by
  rw [grouped, List.flatMap_map]
  exact perm_flatMap_filter key (nodup_eraseDups _)
    fun a ha => List.mem_eraseDups.2 (List.mem_map.2 ⟨a, ha, rfl⟩)

end Grouped

end ApiRouter

import Mathlib.Data.List.Forall2

set_option autoImplicit false

/-! # Computations that may fail

What a successful run of a computation in `Except` says about its parts: a sequence succeeds when
both of its parts do, a traversal when every step does. -/

namespace ApiRouter.Outcome

variable {ε α β σ : Type}

@[simp]
theorem ok_bind (a : α) (f : α → Except ε β) : (Except.ok a >>= f) = f a := rfl

@[simp]
theorem map_ok (f : α → β) (a : α) : f <$> (Except.ok a : Except ε α) = .ok (f a) := rfl

theorem bind_eq_ok {x : Except ε α} {f : α → Except ε β} {b : β} :
    x >>= f = .ok b ↔ ∃ a, x = .ok a ∧ f a = .ok b := by
  cases x with
  | error e => simp [bind, Except.bind]
  | ok a => simp [bind, Except.bind]

theorem map_eq_ok {f : α → β} {x : Except ε α} {b : β} :
    f <$> x = .ok b ↔ ∃ a, x = .ok a ∧ f a = b := by
  cases x with
  | error e => simp [Functor.map, Except.map]
  | ok a => simp [Functor.map, Except.map]

theorem bind_eq_error {x : Except ε α} {f : α → Except ε β} {e : ε} :
    x >>= f = .error e ↔ x = .error e ∨ ∃ a, x = .ok a ∧ f a = .error e := by
  cases x with
  | error e' => simp [bind, Except.bind]
  | ok a => simp [bind, Except.bind]

theorem map_eq_error {f : α → β} {x : Except ε α} {e : ε} :
    f <$> x = .error e ↔ x = .error e := by
  cases x with
  | error e' => simp [Functor.map, Except.map]
  | ok a => simp [Functor.map, Except.map]

/-- A computation that is seen to succeed has a result. -/
theorem exists_of_toBool {x : Except ε α} (h : x.toBool = true) : ∃ a, x = .ok a := by
  cases x with
  | error e => cases h
  | ok a => exact ⟨a, rfl⟩

/-- A computation of whose result something is seen has that result. -/
theorem exists_of_toOption_map {x : Except ε α} {f : α → β} {b : β}
    (h : x.toOption.map f = some b) : ∃ a, x = .ok a ∧ f a = b := by
  cases x with
  | error e => cases h
  | ok a => exact ⟨a, rfl, Option.some.inj h⟩

theorem ite_bind {c : Prop} [Decidable c] (x y : Except ε α) (f : α → Except ε β) :
    (if c then x else y) >>= f = if c then x >>= f else y >>= f := by
  split
  · rfl
  · rfl

/-- A traversal succeeds exactly when each step does, with the results in the order of the
    items. -/
theorem mapM_eq_ok {f : α → Except ε β} {xs : List α} {ys : List β} :
    xs.mapM f = .ok ys ↔ List.Forall₂ (fun x y => f x = .ok y) xs ys := by
  induction xs generalizing ys with
  | nil => simp [pure, Except.pure, eq_comm]
  | cons x rest ih =>
      rw [List.mapM_cons, bind_eq_ok, List.forall₂_cons_left_iff]
      constructor
      · rintro ⟨y, hy, h⟩
        obtain ⟨ys', hys', h⟩ := bind_eq_ok.1 h
        cases h
        exact ⟨y, ys', hy, ih.1 hys', rfl⟩
      · rintro ⟨y, ys', hy, hys', rfl⟩
        exact ⟨y, hy, bind_eq_ok.2 ⟨ys', ih.2 hys', rfl⟩⟩

/-- A traversal whose steps all succeed does so. -/
theorem exists_mapM_eq_ok {f : α → Except ε β} {xs : List α} (h : ∀ x ∈ xs, ∃ y, f x = .ok y) :
    ∃ ys, xs.mapM f = .ok ys := by
  induction xs with
  | nil => exact ⟨[], rfl⟩
  | cons x rest ih =>
      rw [List.forall_mem_cons] at h
      obtain ⟨y, hy⟩ := h.1
      obtain ⟨ys, hys⟩ := ih h.2
      exact ⟨y :: ys, by rw [List.mapM_cons, hy, hys]; rfl⟩

/-- A traversal of mapped items is the traversal of the items, its results mapped in their turn. -/
theorem mapM_map {α' β' : Type} {f : α' → Except ε β'} {g : α → α'} {h : α → Except ε β}
    {k : β → β'} (hstep : ∀ x, f (g x) = k <$> h x) (xs : List α) :
    (xs.map g).mapM f = List.map k <$> xs.mapM h := by
  induction xs with
  | nil => rfl
  | cons x rest ih =>
      rw [List.map_cons, List.mapM_cons, List.mapM_cons, hstep, ih]
      cases h x with
      | error e => rfl
      | ok y =>
          cases rest.mapM h with
          | error e => rfl
          | ok ys => rfl

/-- A choice that keeps each item or drops it is a filter. -/
theorem filterMapM_eq_filter {f : α → Except ε (Option α)} {q : α → Bool} {xs : List α}
    (h : ∀ x ∈ xs, f x = .ok (if q x then some x else none)) :
    xs.filterMapM f = .ok (xs.filter q) := by
  induction xs with
  | nil => rfl
  | cons x rest ih =>
      rw [List.forall_mem_cons] at h
      rw [List.filterMapM_cons, h.1, ok_bind, ih h.2]
      cases hq : q x with
      | true => simp [hq]
      | false => simp [hq]

/-- A choice in which a step fails does so, with the only failure that its steps have. -/
theorem filterMapM_eq_error {f : α → Except ε (Option β)} {xs : List α} {only : ε}
    (honly : ∀ x ∈ xs, ∀ e, f x = .error e → e = only) (h : ∃ x ∈ xs, ∃ e, f x = .error e) :
    xs.filterMapM f = .error only := by
  induction xs with
  | nil =>
      obtain ⟨x, hx, -⟩ := h
      cases hx
  | cons x rest ih =>
      rw [List.forall_mem_cons] at honly
      rw [List.filterMapM_cons]
      cases hx : f x with
      | error e =>
          rw [honly.1 e hx]
          rfl
      | ok chosen =>
          have hrest : ∃ y ∈ rest, ∃ e, f y = .error e := by
            obtain ⟨y, hy, e, he⟩ := h
            rcases List.mem_cons.1 hy with rfl | hy
            · cases hx.symm.trans he
            · exact ⟨y, hy, e, he⟩
          rw [ok_bind, ih honly.2 hrest]
          cases chosen with
          | none => rfl
          | some y => rfl

/-- A traversal fails as one of its steps does. -/
theorem exists_of_mapM_eq_error {f : α → Except ε β} {xs : List α} {e : ε}
    (h : xs.mapM f = .error e) : ∃ x ∈ xs, f x = .error e := by
  induction xs with
  | nil => cases h
  | cons x rest ih =>
      rw [List.mapM_cons] at h
      rcases bind_eq_error.1 h with hx | ⟨y, -, h⟩
      · exact ⟨x, List.mem_cons_self .., hx⟩
      · rcases bind_eq_error.1 h with hrest | ⟨ys, -, h⟩
        · obtain ⟨x', hx', hfail⟩ := ih hrest
          exact ⟨x', List.mem_cons_of_mem _ hx', hfail⟩
        · cases h

/-- A traversal in which a step can fail with one failure only fails with it, when a step does. -/
theorem mapM_eq_error {f : α → Except ε β} {p : α → Prop} {only : ε}
    (hf : ∀ x e, f x = .error e ↔ p x ∧ e = only) {xs : List α} {e : ε} :
    xs.mapM f = .error e ↔ (∃ x ∈ xs, p x) ∧ e = only := by
  constructor
  · intro h
    obtain ⟨x, hx, hfail⟩ := exists_of_mapM_eq_error h
    obtain ⟨hp, he⟩ := (hf x e).1 hfail
    exact ⟨⟨x, hx, hp⟩, he⟩
  · rintro ⟨⟨x, hx, hp⟩, rfl⟩
    induction xs with
    | nil => cases hx
    | cons y rest ih =>
        rw [List.mapM_cons, bind_eq_error]
        cases hy : f y with
        | error e' => exact .inl (by rw [((hf y e').1 hy).2])
        | ok z =>
            rcases List.mem_cons.1 hx with rfl | hx
            · cases hy.symm.trans ((hf x e).2 ⟨hp, rfl⟩)
            · exact .inr ⟨z, rfl, bind_eq_error.2 (.inl (ih hx))⟩

/-- A traversal of what a choice from the items gives is one of the items that give something. -/
theorem mapM_filterMap_eq_ok {g : α → Option β} {f : β → Except ε σ} {q : α → Prop}
    [DecidablePred q] (hq : ∀ a, q a ↔ ∃ b, g a = some b) {xs : List α} {ys : List σ} :
    (xs.filterMap g).mapM f = .ok ys ↔
      List.Forall₂ (fun x y => ∃ b, g x = some b ∧ f b = .ok y) (xs.filter q) ys := by
  rw [mapM_eq_ok]
  induction xs generalizing ys with
  | nil => simp
  | cons x rest ih =>
      cases hx : g x with
      | none =>
          have hnot : ¬ q x := fun h => by
            obtain ⟨b, hb⟩ := (hq x).1 h
            rw [hx] at hb
            cases hb
          rw [List.filterMap_cons_none hx, List.filter_cons_of_neg (by simpa using hnot)]
          exact ih
      | some b =>
          have hqx : q x := (hq x).2 ⟨b, hx⟩
          rw [List.filterMap_cons_some hx, List.filter_cons_of_pos (by simpa using hqx),
            List.forall₂_cons_left_iff, List.forall₂_cons_left_iff]
          simp only [ih, hx, Option.some.injEq, exists_eq_left']

/-- Checks that are made in a row all pass when each does. -/
theorem forM_eq_ok {f : α → Except ε Unit} {xs : List α} :
    forM xs f = .ok () ↔ ∀ x ∈ xs, f x = .ok () := by
  induction xs with
  | nil => simp [pure, Except.pure]
  | cons x rest ih =>
      rw [List.forM_cons, bind_eq_ok, List.forall_mem_cons, ih]
      constructor
      · rintro ⟨⟨⟩, hx, hrest⟩
        exact ⟨hx, hrest⟩
      · rintro ⟨hx, hrest⟩
        exact ⟨(), hx, hrest⟩

/-- What the start of a fold has and every successful step keeps, its result has. -/
theorem foldlM_invariant (motive : σ → Prop) {f : σ → α → Except ε σ} {xs : List α} {s t : σ}
    (hstep : ∀ s x t, x ∈ xs → motive s → f s x = .ok t → motive t) (hs : motive s)
    (h : xs.foldlM f s = .ok t) : motive t := by
  induction xs generalizing s with
  | nil =>
      cases h
      exact hs
  | cons x rest ih =>
      rw [List.foldlM_cons, bind_eq_ok] at h
      obtain ⟨s', hx, h⟩ := h
      exact ih (fun s y t hy => hstep s y t (List.mem_cons_of_mem _ hy))
        (hstep s x s' (List.mem_cons_self ..) hs hx) h

/-- A fold over what is read from the items reads all of them, and folds what was read. -/
theorem foldlM_read {f : α → Except ε β} {g : σ → β → σ} (xs : List α) (s : σ) :
    xs.foldlM (fun s x => f x >>= fun y => .ok (g s y)) s = List.foldl g s <$> xs.mapM f := by
  induction xs generalizing s with
  | nil => rfl
  | cons x rest ih =>
      rw [List.foldlM_cons, List.mapM_cons]
      cases f x with
      | error e => rfl
      | ok y =>
          rw [ok_bind, ok_bind, ok_bind, ih]
          cases rest.mapM f with
          | error e => rfl
          | ok ys => rfl

/-- Items at which no step changes anything can be left out of a fold, whether it succeeds or not. -/
theorem foldlM_filter {f : σ → α → Except ε σ} {q : α → Bool}
    (hskip : ∀ s x, q x = false → f s x = .ok s) (xs : List α) (s : σ) :
    (xs.filter q).foldlM f s = xs.foldlM f s := by
  induction xs generalizing s with
  | nil => rfl
  | cons x rest ih =>
      rw [List.foldlM_cons]
      cases hq : q x with
      | true =>
          rw [List.filter_cons_of_pos hq, List.foldlM_cons]
          exact congrArg (f s x >>= ·) (funext ih)
      | false => rw [List.filter_cons_of_neg (by simp [hq]), hskip s x hq, ok_bind, ih]

end ApiRouter.Outcome

import ApiRouter.Proofs.Findings
import Mathlib.Data.List.Forall2

set_option autoImplicit false

/-! # Findings that agree

Two evaluations of one subject agree when both find something or neither does, and both stop for the
same cause or neither stops. Their messages may differ. Evaluation may also come to an end because
its steps run out; the other one, which may need fewer, then has only to find something where the
first one did. Agreement is kept by all the ways in which keywords put findings together. -/

namespace ApiRouter

/-! ## Findings -/

/-- The findings `g` agree with `f`, as far as the steps of `f` go. -/
inductive Findings.Agrees (f g : Findings) : Prop
  | exhausted (hstopped : f.stopped = some .endless)
      (hfound : f.violations ≠ [] → g.violations ≠ [])
  | settled (hstopped : f.stopped = g.stopped) (hfound : f.violations = [] ↔ g.violations = [])

/-- The computation `y` agrees with `x`, with results related by `R`, as far as the steps of `x`
go. -/
inductive AgreesOn {α β : Type} (R : α → β → Prop) : Except Defect α → Except Defect β → Prop
  | exhausted (y : Except Defect β) : AgreesOn R (.error .endless) y
  | failed (cause : Defect) : AgreesOn R (.error cause) (.error cause)
  | ok {a : α} {b : β} (h : R a b) : AgreesOn R (.ok a) (.ok b)

namespace AgreesOn

variable {α β γ δ : Type} {R : α → β → Prop} {S : γ → δ → Prop}

theorem refl (x : Except Defect α) : AgreesOn (· = ·) x x := by
  cases x with
  | error cause => exact .failed cause
  | ok a => exact .ok rfl

theorem imp {T : α → β → Prop} {x : Except Defect α} {y : Except Defect β}
    (hRT : ∀ {a b}, R a b → T a b) (h : AgreesOn R x y) : AgreesOn T x y := by
  cases h with
  | exhausted => exact .exhausted _
  | failed cause => exact .failed cause
  | ok hab => exact .ok (hRT hab)

theorem bind {x : Except Defect α} {y : Except Defect β} {f : α → Except Defect γ}
    {g : β → Except Defect δ} (h : AgreesOn R x y) (hfg : ∀ a b, R a b → AgreesOn S (f a) (g b)) :
    AgreesOn S (x >>= f) (y >>= g) := by
  cases h with
  | exhausted => exact .exhausted _
  | failed cause => exact .failed cause
  | ok hab => exact hfg _ _ hab

end AgreesOn

namespace Findings

variable {f g : Findings}

namespace Agrees

theorem refl (f : Findings) : Agrees f f :=
  .settled rfl Iff.rfl

theorem of_eq (h : f = g) : Agrees f g :=
  h ▸ refl f

/-- An evaluation without steps agrees with every other. -/
theorem stop_endless (g : Findings) : Agrees (stop .endless) g :=
  .exhausted rfl fun h => absurd rfl h

/-- When the steps do not run out, both are clear or neither is. -/
theorem clear_iff (h : Agrees f g) (hroom : f.stopped ≠ some .endless) : f = clear ↔ g = clear := by
  cases h with
  | exhausted hstopped => exact absurd hstopped hroom
  | settled hstopped hfound => rw [eq_clear_iff, eq_clear_iff, hstopped, hfound]

/-! ### Putting findings together -/

theorem andThen {r r' : Unit → Findings} (h : Agrees f g) (hrest : Agrees (r ()) (r' ())) :
    Agrees (f.andThen r) (g.andThen r') := by
  cases h with
  | exhausted hstopped hfound =>
      refine .exhausted (by simp only [Findings.andThen, hstopped]) fun hne => ?_
      simp only [Findings.andThen, hstopped] at hne
      unfold Findings.andThen
      split
      · exact hfound hne
      · exact List.append_ne_nil_of_left_ne_nil (hfound hne) _
  | settled hstopped hfound =>
      cases hs : g.stopped with
      | some cause =>
          rw [hs] at hstopped
          refine .settled ?_ ?_
          · simp only [Findings.andThen, hstopped, hs]
          · simpa only [Findings.andThen, hstopped, hs] using hfound
      | none =>
          rw [hs] at hstopped
          cases hrest with
          -- the first evaluation runs out in the rest; what it found before, the second found too
          | exhausted hend hmore =>
              refine .exhausted (by simpa only [Findings.andThen, hstopped] using hend) ?_
              simp only [Findings.andThen, hstopped, hs, ne_eq, List.append_eq_nil_iff, not_and_or]
              rintro (hne | hne)
              · exact .inl fun hnil => hne (hfound.2 hnil)
              · exact .inr (hmore hne)
          | settled hend hmore =>
              refine .settled ?_ ?_
              · simpa only [Findings.andThen, hstopped, hs] using hend
              · simp only [Findings.andThen, hstopped, hs, List.append_eq_nil_iff, hfound, hmore]

theorem forAll {α β : Type} {R : α → β → Prop} {as : List α} {bs : List β} {p : α → Findings}
    {q : β → Findings} (h : List.Forall₂ R as bs) (hpq : ∀ a b, R a b → Agrees (p a) (q b)) :
    Agrees (Findings.forAll as p) (Findings.forAll bs q) := by
  induction h with
  | nil => exact refl _
  | cons hab _ ih => exact andThen (hpq _ _ hab) ih

theorem forAll_same {α : Type} {as : List α} {p q : α → Findings}
    (hpq : ∀ a, Agrees (p a) (q a)) : Agrees (Findings.forAll as p) (Findings.forAll as q) :=
  forAll (R := (· = ·)) (List.forall₂_eq_eq_eq ▸ rfl) fun a _ hab => hab ▸ hpq a

theorem under (h : Agrees f g) (name : String) : Agrees (f.under name) (g.under name) := by
  cases h with
  | exhausted hstopped hfound =>
      exact .exhausted hstopped (by simpa only [Findings.under, ne_eq, List.map_eq_nil_iff])
  | settled hstopped hfound =>
      exact .settled hstopped (by simpa only [Findings.under, List.map_eq_nil_iff])

theorem withValue {α β : Type} {R : α → β → Prop} {x : Except Defect α} {y : Except Defect β}
    {p : α → Findings} {q : β → Findings} (h : AgreesOn R x y)
    (hpq : ∀ a b, R a b → Agrees (p a) (q b)) :
    Agrees (Findings.withValue x p) (Findings.withValue y q) := by
  cases h with
  | exhausted => exact stop_endless _
  | failed cause => exact refl _
  | ok hab => exact hpq _ _ hab

/-- Messages about values that can be shown alike. -/
theorem report {about about' : List Value} (message message' : String)
    (h : about.all Value.isShowable = about'.all Value.isShowable) :
    Agrees (Findings.report about message) (Findings.report about' message') := by
  unfold Findings.report
  rw [h]
  split
  · exact .settled rfl (by simp [violation])
  · exact refl _

theorem require {about about' : List Value} (ok : Bool) (message message' : String)
    (h : about.all Value.isShowable = about'.all Value.isShowable) :
    Agrees (Findings.require ok about message) (Findings.require ok about' message') := by
  unfold Findings.require
  split
  · exact refl _
  · exact report message message' h

/-! ### Verdicts -/

theorem isClear (h : Agrees f g) : AgreesOn (· = ·) f.isClear g.isClear := by
  obtain ⟨violations, stopped⟩ := f
  obtain ⟨violations', stopped'⟩ := g
  cases h with
  | exhausted hstopped hfound =>
      cases hstopped
      cases violations with
      | nil => exact .exhausted _
      | cons v rest =>
          cases violations' with
          | nil => exact absurd rfl (hfound (by simp))
          | cons v' rest' => exact .ok rfl
  | settled hstopped hfound =>
      cases hstopped
      cases violations with
      | nil =>
          cases hfound.1 rfl
          exact .refl _
      | cons v rest =>
          cases violations' with
          | nil => cases hfound.2 rfl
          | cons v' rest' => exact .ok rfl

theorem all (h : Agrees f g) : AgreesOn (fun vs vs' => vs.isEmpty = vs'.isEmpty) f.all g.all := by
  obtain ⟨violations, stopped⟩ := f
  obtain ⟨violations', stopped'⟩ := g
  cases h with
  | exhausted hstopped =>
      cases hstopped
      exact .exhausted _
  | settled hstopped hfound =>
      cases hstopped
      cases stopped with
      | some cause => exact .failed cause
      | none =>
          refine .ok (Bool.eq_iff_iff.2 ?_)
          rw [List.isEmpty_iff, List.isEmpty_iff]
          exact hfound

end Agrees

end Findings

end ApiRouter

import ApiRouter.Error
import ApiRouter.Value.Display

set_option autoImplicit false

/-! # Findings of a validation

What a schema finds wrong with an instance, in the order found. Evaluation may also stop early, at a
keyword whose value cannot be used; then nothing after that point is known. -/

namespace ApiRouter

/-- One violated keyword: the place in the instance, and what is wrong there. -/
structure Violation where
  path : List String
  message : String
  deriving DecidableEq, Repr

/-- Violations in order, and why evaluation stopped after them if it did. -/
structure Findings where
  violations : List Violation
  stopped : Option Defect
  deriving DecidableEq, Repr

namespace Findings

/-- Nothing is wrong. -/
def clear : Findings := ⟨[], none⟩

/-- One violation at the place itself. -/
def violation (message : String) : Findings := ⟨[⟨[], message⟩], none⟩

/-- Evaluation stops. -/
def stop (cause : Defect) : Findings := ⟨[], some cause⟩

/-- What is found first, then the rest unless evaluation stopped. -/
def andThen (first : Findings) (rest : Unit → Findings) : Findings :=
  match first.stopped with
  | some _ => first
  | none =>
    let more := rest ()
    ⟨first.violations ++ more.violations, more.stopped⟩

/-- The findings for all items in order. -/
def forAll {α : Type} (items : List α) (check : α → Findings) : Findings :=
  match items with
  | [] => clear
  | x :: xs => (check x).andThen fun _ => forAll xs check

/-- The findings seen from outside the part `name`. -/
def under (name : String) (f : Findings) : Findings :=
  { f with violations := f.violations.map fun v => { v with path := name :: v.path } }

/-- One violation at the place itself, whose message shows the values `about`. -/
def report (about : List Value) (message : String) : Findings :=
  if about.all Value.isShowable then violation message else stop .badValue

/-- A violation exactly when the test fails; its message shows the values `about`. -/
@[macro_inline]
def require (ok : Bool) (about : List Value) (message : String) : Findings :=
  if ok then clear else report about message

/-- Goes on with a value, or stops. -/
def withValue {α : Type} (value : Except Defect α) (next : α → Findings) : Findings :=
  match value with
  | .ok a => next a
  | .error cause => stop cause

/-- Whether there is no violation. A violation answers the question even when evaluation stops
later. -/
def isClear (f : Findings) : Except Defect Bool :=
  match f.violations, f.stopped with
  | _ :: _, _ => .ok false
  | [], some cause => .error cause
  | [], none => .ok true

/-- All violations, if evaluation did not stop. -/
def all (f : Findings) : Except Defect (List Violation) :=
  match f.stopped with
  | some cause => .error cause
  | none => .ok f.violations

end Findings

end ApiRouter

import ApiRouter.Error
import ApiRouter.Number.Binary64

set_option autoImplicit false

/-! # Multiples

Whether a number is a multiple of another. A whole divisor asks for no remainder. A binary divisor
asks for a quotient without fraction, the quotient being rounded like any other; only when it is
beyond the finite range the exact fractions decide. -/

namespace ApiRouter.Number

/-- A number as a binary one. -/
def toBinary : Number → Except Defect Binary64
  | .int n =>
    match Binary64.ofInt? n with
    | some x => .ok x
    | none => .error .overflow
  | .float x => .ok x

/-- Whether one fraction is a whole multiple of another. -/
def isWholeMultiple (a b : Rat) : Bool :=
  (a / b).den == 1

/-- Whether `x` is a multiple of the binary number `d`. -/
def isMultipleOfBinary (x : Number) (d : Binary64) : Except Defect Bool := do
  let y ← x.toBinary
  if d.isZero then throw .divisionByZero
  match y.div d with
  | .nan _ => throw .badValue
  | .infinite _ =>
    match x.position, d.toRat? with
    | .at a, some b => .ok (isWholeMultiple a b)
    | _, _ => throw .overflow
  | q => .ok q.toInt?.isSome

/-- Whether `x` is a multiple of the whole number `d`. -/
def isMultipleOfInt (x : Number) (d : Int) : Except Defect Bool :=
  match x with
  | .int n => if d == 0 then .error .divisionByZero else .ok (n % d == 0)
  | .float y => do
    let b ← (Number.int d).toBinary
    if d == 0 then throw .divisionByZero
    match y.toRat?, b.toRat? with
    | some a, some b => .ok (isWholeMultiple a b)
    | _, _ => .ok false

end ApiRouter.Number

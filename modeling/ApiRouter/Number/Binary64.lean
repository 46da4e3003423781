set_option autoImplicit false

/-! # Binary floating point, exactly

A 64-bit binary number is a sign, a whole mantissa and a power of two, or one of the special
values. Arithmetic is done on exact fractions and rounded once, to the nearest representable
number with ties to the even mantissa. Every finite value built here is canonical: the mantissa
has 53 bits, or fewer at the least exponent. -/

namespace ApiRouter

/-! ## Powers of two and ten

A power with an integer exponent is a fraction. `twoPow e` over `twoPow (-e)` is two to the `e`,
and one of the two is always 1; likewise for ten. -/

/-- Two to the exponent when that is positive, and 1 otherwise. -/
def twoPow (e : Int) : Nat := Nat.pow 2 e.toNat

/-- Ten to the exponent when that is positive, and 1 otherwise. -/
def tenPow (e : Int) : Nat := Nat.pow 10 e.toNat

/-! ## Numbers -/

/-- Where a not-a-number comes from. All those read from one notation are one and the same value;
one that arises in any other way is the same as no other. -/
inductive NanOrigin where
  | json
  | yaml
  | other
  deriving DecidableEq, Repr, Inhabited

/-- A 64-bit binary floating-point number; a finite one is `± mantissa · 2 ^ exponent`. -/
inductive Binary64 where
  | nan (origin : NanOrigin)
  | infinite (negative : Bool)
  | finite (negative : Bool) (mantissa : Nat) (exponent : Int)
  deriving DecidableEq, Repr, Inhabited

namespace Binary64

/-- The least exponent of a canonical number. -/
def leastExponent : Int := -1074

/-- The greatest exponent of a canonical number. -/
def greatestExponent : Int := 971

/-- Every mantissa is below this bound: it has at most 53 bits. -/
def mantissaBound : Nat := twoPow 53

/-- The quotient `num / den` to the nearest whole number, ties to the even one. -/
def roundDiv (num den : Nat) : Nat :=
  let q := num / den
  let r := num % den
  if 2 * r > den || (2 * r == den && q % 2 == 1) then q + 1 else q

/-- The nearest multiple of `2 ^ e` to `num / den`, in units of `2 ^ e`. -/
def unitsOf (num den : Nat) (e : Int) : Nat :=
  if 0 ≤ e then roundDiv num (den * twoPow e) else roundDiv (num * twoPow (-e)) den

/-- Whether `num / den` is below `2 ^ e`. -/
def belowPower (num den : Nat) (e : Int) : Bool :=
  if 0 ≤ e then num < den * twoPow e else num * twoPow (-e) < den

/-- The zero of the given sign. -/
def zero (negative : Bool) : Binary64 := .finite negative 0 leastExponent

/-- The number nearest to `± num / den`. -/
def round (negative : Bool) (num den : Nat) : Binary64 :=
  if num == 0 || den == 0 then zero negative
  else
    let log : Int := (num.log2 : Int) - (den.log2 : Int)
    let log := if belowPower num den log then log - 1 else log
    let e := max (log - 52) leastExponent
    let m := unitsOf num den e
    let (m, e) := if m == mantissaBound then (m / 2, e + 1) else (m, e)
    if e > greatestExponent then .infinite negative else .finite negative m e

/-- The number nearest to the decimal `± digits · 10 ^ scale`. -/
def ofDecimal (negative : Bool) (digits : Nat) (scale : Int) : Binary64 :=
  if digits == 0 then zero negative
  else
    -- beyond these bounds the result is infinite or zero whatever the digits are
    if scale > 400 then .infinite negative
    else if scale + (digits.log2 : Int) < -6000 then zero negative
    else if 0 ≤ scale then round negative (digits * tenPow scale) 1
    else round negative digits (tenPow (-scale))

/-- The exact value of a finite number. -/
def toRat? : Binary64 → Option Rat
  | .finite negative m e =>
    let size : Rat := if 0 ≤ e then (m * twoPow e : Nat) else mkRat m (twoPow (-e))
    some (if negative then -size else size)
  | _ => none

/-- The number nearest to a fraction; `negativeZero` gives the sign of a zero. -/
def ofRat (q : Rat) (negativeZero : Bool) : Binary64 :=
  if q.num == 0 then zero negativeZero else round (q.num < 0) q.num.natAbs q.den

/-- The number nearest to a whole number, unless that lies beyond the finite range. -/
def ofInt? (n : Int) : Option Binary64 :=
  match round (n < 0) n.natAbs 1 with
  | .infinite _ => none
  | x => some x

/-- The sign bit; a not-a-number has none. -/
def isNegative : Binary64 → Bool
  | .nan _ => false
  | .infinite s => s
  | .finite s _ _ => s

def isZero : Binary64 → Bool
  | .finite _ 0 _ => true
  | _ => false

/-- The whole number that a finite number without fraction equals. -/
def toInt? (x : Binary64) : Option Int :=
  match x.toRat? with
  | some q => if q.den == 1 then some q.num else none
  | none => none

/-- The product, rounded once. -/
def mul (x y : Binary64) : Binary64 :=
  let s := x.isNegative != y.isNegative
  match x, y with
  | .nan _, _ | _, .nan _ => .nan .other
  | .infinite _, z | z, .infinite _ => if z.isZero then .nan .other else .infinite s
  | .finite _ m e, .finite _ n f =>
    let k := e + f
    if 0 ≤ k then round s (m * n * twoPow k) 1 else round s (m * n) (twoPow (-k))

/-- The sum, rounded once. -/
def add (x y : Binary64) : Binary64 :=
  match x, y with
  | .nan _, _ | _, .nan _ => .nan .other
  | .infinite s, .infinite t => if s == t then .infinite s else .nan .other
  | .infinite s, _ | _, .infinite s => .infinite s
  | x, y =>
    match x.toRat?, y.toRat? with
    | some a, some b => ofRat (a + b) (x.isNegative && y.isNegative)
    | _, _ => .nan .other

/-- The quotient, rounded once; the divisor is not zero. -/
def div (x y : Binary64) : Binary64 :=
  let s := x.isNegative != y.isNegative
  match x, y with
  | .nan _, _ | _, .nan _ => .nan .other
  | .infinite _, .infinite _ => .nan .other
  | .infinite _, _ => .infinite s
  | _, .infinite _ => zero s
  | .finite _ m e, .finite _ n f =>
    if n == 0 then (if m == 0 then .nan .other else .infinite s)
    else
      let k := e - f
      if 0 ≤ k then round s (m * twoPow k) n else round s m (n * twoPow (-k))

/-- The number with the other sign. -/
def neg : Binary64 → Binary64
  | .nan o => .nan o
  | .infinite s => .infinite (!s)
  | .finite s m e => .finite (!s) m e

end Binary64

/-! ## Numbers of both kinds -/

/-- A number as documents hold it: whole and unbounded, or binary floating point. -/
inductive Number where
  | int (n : Int)
  | float (x : Binary64)
  deriving DecidableEq, Repr, Inhabited

namespace Number

/-- Where a number lies on the line: not at all, beyond either end, or at a fraction. -/
inductive Position where
  | nowhere
  | below
  | at (q : Rat)
  | above

def position : Number → Position
  | .int n => .at n
  | .float (.nan _) => .nowhere
  | .float (.infinite true) => .below
  | .float (.infinite false) => .above
  | .float (.finite s m e) =>
    match (Binary64.finite s m e).toRat? with
    | some q => .at q
    | none => .nowhere

/-- Exact strict order; a not-a-number is below nothing and above nothing. -/
def lt (x y : Number) : Bool :=
  match x.position, y.position with
  | .nowhere, _ | _, .nowhere => false
  | .below, .below => false
  | .below, _ => true
  | .at _, .below => false
  | .at a, .at b => a < b
  | .at _, .above => true
  | .above, _ => false

/-- Exact equality of values; a not-a-number equals nothing. -/
def eq (x y : Number) : Bool :=
  match x.position, y.position with
  | .below, .below => true
  | .above, .above => true
  | .at a, .at b => a == b
  | _, _ => false

/-- Exact order; a not-a-number is below nothing and above nothing. -/
def le (x y : Number) : Bool := lt x y || eq x y

end Number

end ApiRouter

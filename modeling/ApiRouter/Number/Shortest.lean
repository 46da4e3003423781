import ApiRouter.Number.Binary64

set_option autoImplicit false

/-! # Shortest decimal text of a binary number

A binary number stands for every real that rounds to it. Of the decimals in that interval the text
shows one with the fewest digits, and of those the nearest to the number itself. -/

namespace ApiRouter.Shortest

/-- The decimal `digits · 10 ^ scale`. -/
structure Decimal where
  digits : Nat
  scale : Int
  deriving DecidableEq, Repr

/-- Compares `a · 10 ^ u` with `b · 2 ^ e`. -/
def compareScaled (a : Nat) (u : Int) (b : Nat) (e : Int) : Ordering :=
  compare (a * tenPow u * twoPow (-e)) (b * twoPow e * tenPow (-u))

/-- The reals that round to `m · 2 ^ e`, in quarter units of `2 ^ e`. -/
structure Interval where
  low : Nat
  high : Nat
  /-- The ends belong to the interval when the mantissa is even. -/
  closed : Bool

/-- A mantissa at a power of two has a neighbour below that is only half as far. -/
def Interval.around (m : Nat) (e : Int) : Interval :=
  let low := if m == twoPow 52 && e > Binary64.leastExponent then 4 * m - 1 else 4 * m - 2
  ⟨low, 4 * m + 2, m % 2 == 0⟩

/-- Whether the decimal rounds to the number of exponent `e` with the given interval. -/
def Interval.holds (i : Interval) (e : Int) (d : Decimal) : Bool :=
  let onLow := compareScaled d.digits d.scale i.low (e - 2)
  let onHigh := compareScaled d.digits d.scale i.high (e - 2)
  match onLow, onHigh with
  | .gt, .lt => true
  | .eq, _ => i.closed
  | _, .eq => i.closed
  | _, _ => false

/-- The exponent of the leading decimal digit of `m · 2 ^ e`. -/
def leadingExponent (m : Nat) (e : Int) : Int :=
  let guess := (((m.log2 : Int) + e) * 30103).fdiv 100000
  if compareScaled 1 (guess + 1) m e != .gt then guess + 1 else guess

/-- The whole part of `m · 2 ^ e / 10 ^ u`. -/
def floorUnits (m : Nat) (e u : Int) : Nat :=
  (m * twoPow e * tenPow (-u)) / (tenPow u * twoPow (-e))

/-- Whether the number lies above, at or below the middle of its two neighbours `k` and `k + 1`. -/
def compareMiddle (m : Nat) (e u : Int) (k : Nat) : Ordering :=
  (compareScaled (2 * k + 1) u (2 * m) e).swap

/-- The decimal of at most `n` digits nearest to the number, if one of that length rounds to it. -/
def candidate? (m : Nat) (e : Int) (i : Interval) (lead : Int) (n : Nat) : Option Decimal :=
  let u := lead - (n : Int) + 1
  let k := floorUnits m e u
  let below : Decimal := ⟨k, u⟩
  let above : Decimal := ⟨k + 1, u⟩
  match i.holds e below, i.holds e above with
  | true, false => some below
  | false, true => some above
  | false, false => none
  | true, true =>
    match compareMiddle m e u k with
    | .lt => some below
    | .gt => some above
    | .eq => some (if k % 2 == 0 then below else above)

/-- Drops the zeros at the end of the digits; `fuel` is at least their number. -/
def Decimal.trim : Nat → Decimal → Decimal
  | 0, d => d
  | fuel + 1, d =>
    if d.digits != 0 && d.digits % 10 == 0 then Decimal.trim fuel ⟨d.digits / 10, d.scale + 1⟩
    else d

/-- The shortest decimal that rounds to `m · 2 ^ e`. -/
def decimal (m : Nat) (e : Int) : Decimal :=
  if m == 0 then ⟨0, 0⟩
  else
    let i := Interval.around m e
    let lead := leadingExponent m e
    match (List.range 17).findSome? fun n => candidate? m e i lead (n + 1) with
    | some d => d.trim 20
    | none => (⟨floorUnits m e (lead - 16), lead - 16⟩ : Decimal).trim 20

/-! ## Layout of the text -/

/-- The least exponent written positionally. -/
def leastPositional : Int := -4

/-- The least exponent above the positional ones. -/
def firstScientific : Int := 16

/-- The exponent's sign and at least two digits. -/
def exponentText (e : Int) : String :=
  let size := toString e.natAbs
  (if e < 0 then "e-" else "e+") ++ (if size.length < 2 then "0" ++ size else size)

/-- A positive decimal: positional with at least one digit after the point, or scientific outside
the positional range. -/
def Decimal.text (d : Decimal) : String :=
  let ds := (toString d.digits).toList
  let lead := d.scale + (ds.length : Int) - 1
  if d.digits == 0 then "0.0"
  else if lead < leastPositional || firstScientific ≤ lead then
    match ds with
    | [] => ""
    | [c] => String.ofList [c] ++ exponentText lead
    | c :: rest => String.ofList (c :: '.' :: rest) ++ exponentText lead
  else if lead < 0 then
    "0." ++ String.ofList (List.replicate (-lead - 1).toNat '0' ++ ds)
  else
    let whole := (lead + 1).toNat
    let padded := ds ++ List.replicate (whole - ds.length) '0'
    let rest := padded.drop whole
    String.ofList (padded.take whole) ++ "." ++ (if rest.isEmpty then "0" else String.ofList rest)

end ApiRouter.Shortest

namespace ApiRouter

/-- The text of a binary number: its shortest decimal, or the name of a special value. -/
def Binary64.text : Binary64 → String
  | .nan _ => "nan"
  | .infinite s => if s then "-inf" else "inf"
  | .finite s m e => (if s then "-" else "") ++ (Shortest.decimal m e).text

end ApiRouter

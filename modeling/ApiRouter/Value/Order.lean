import ApiRouter.Value.Equal

set_option autoImplicit false

/-! # Order of document values

Numbers, texts, dates, moments with each other, bytes, and lists of such values have an order among
their own kind. Sorting asks for the order of certain pairs only, and fails when one of them has
none. A not-a-number is below nothing, so that a list with one comes out of sorting in a way that
depends on which pairs are asked for. -/

namespace ApiRouter.Value

/-! ## Two values -/

/-- Whether one row of bytes is below another. -/
def bytesBelow : List UInt8 → List UInt8 → Bool
  | [], [] => false
  | [], _ :: _ => true
  | _ :: _, [] => false
  | a :: as, b :: bs => if a == b then bytesBelow as bs else a < b

/-- Whether one scalar is below another, if the two have an order. -/
def scalarBelow? : Scalar → Scalar → Option Bool
  | .text s, .text t => some (decide (s < t))
  | .date d, .date e => some (d.ordinal < e.ordinal)
  | .moment m, .moment n => m.below? n
  | .bytes b, .bytes c => some (bytesBelow b c)
  | a, b =>
    match a.number?, b.number? with
    | some x, some y => some (x.lt y)
    | _, _ => none

mutual

/-- Whether one value is below another, if the two have an order. A set is below those that hold it
and more. -/
def below? : Value → Value → Option Bool
  | .scalar a, .scalar b => scalarBelow? a b
  | .list xs, .list ys => itemsBelow? xs ys
  | .pair a b, .pair c d =>
    if !a.equal c then below? a c else if !b.equal d then below? b d else some false
  | .set xs, .set ys => some (xs.length < ys.length && xs.all ys.contains)
  | _, _ => none

/-- The order of lists is that of their first items that differ. -/
def itemsBelow? : List Value → List Value → Option Bool
  | [], [] => some false
  | [], _ :: _ => some true
  | _ :: _, [] => some false
  | x :: xs, y :: ys => if x.equal y then itemsBelow? xs ys else below? x y

end

/-! ## Sorting -/

/-- A question for the order of two values. -/
abbrev Below := Value → Value → Option Bool

/-- How far a run goes on in which every item is below the one before it (`falling`), or none is;
`last` is the latest item of the run. -/
def runLength? (below : Below) (falling : Bool) (last : Value) : List Value → Option Nat
  | [] => some 0
  | x :: rest => do
    if (← below x last) == falling then return (← runLength? below falling x rest) + 1
    else return 0

/-- Where a value goes among sorted ones between two places: after those that it is not below. -/
def placeFor? (below : Below) (sorted : Array Value) (v : Value) :
    (fuel low high : Nat) → Option Nat
  | 0, low, _ => some low
  | fuel + 1, low, high =>
    if low < high then
      let middle := low + (high - low) / 2
      match sorted[middle]? with
      | none => some low
      | some x => do
        if ← below v x then placeFor? below sorted v fuel low middle
        else placeFor? below sorted v fuel (middle + 1) high
    else some low

/-- Puts a value in its place among sorted ones. -/
def insertSorted? (below : Below) (sorted : Array Value) (v : Value) : Option (Array Value) := do
  let i ← placeFor? below sorted v (sorted.size + 1) 0 sorted.size
  return sorted.extract 0 i ++ #[v] ++ sorted.extract i sorted.size

/-- The values in order: the run at the start, turned around if it falls, and the other values put
into it one by one. -/
def sortWith? (below : Below) (values : List Value) : Option (List Value) := do
  match values with
  | [] => return []
  | [v] => return [v]
  | first :: second :: rest =>
    let falling ← below second first
    let length := (← runLength? below falling second rest) + 2
    let run := values.take length
    let run := if falling then run.reverse else run
    return (← (values.drop length).foldlM (insertSorted? below) run.toArray).toList

/-- The values in order, if all that are compared have one. -/
def sort? (values : List Value) : Option (List Value) :=
  sortWith? below? values

end ApiRouter.Value

import ApiRouter.Value.Equal
import ApiRouter.Value.Order

set_option autoImplicit false

/-! # Equality of instances

The equality of `enum`, `const` and `uniqueItems`: booleans differ from numbers at every depth, and
everything with parts in a row, be it a list, a pair or bytes, counts as a list. -/

namespace ApiRouter.Schema

mutual

/-- A value in which all that has parts in a row is a list. -/
def asLists : Value → Value
  | .scalar (.bytes b) => .list (b.map fun n => .int n.toNat)
  | .scalar s => .scalar s
  | .list items => .list (itemsAsLists items)
  | .map entries => .map (entriesAsLists entries)
  | .pair a b => .list [asLists a, asLists b]
  | .set members => .set members
  | .endless => .endless

def itemsAsLists : List Value → List Value
  | [] => []
  | v :: vs => asLists v :: itemsAsLists vs

def entriesAsLists : Entries → Entries
  | [] => []
  | (k, v) :: es => (k, asLists v) :: entriesAsLists es

end

/-- Whether two instances are equal. -/
def matching (a b : Value) : Bool :=
  (asLists a).equalStrict (asLists b)

/-! ## Distinct items

Whether a list holds no item twice. Items that have an order are sorted and compared with their
neighbours; otherwise every pair is compared. Equality keeps booleans apart from numbers. -/

namespace Distinct

/-- The order of items; booleans at the top of the list have none. -/
def below? : Value → Value → Option Bool
  | .bool _, _ => none
  | _, .bool _ => none
  | a, b => a.below? b

/-- Whether no two neighbours are equal. -/
def neighboursDiffer : List Value → Bool
  | x :: y :: rest => !matching x y && neighboursDiffer (y :: rest)
  | _ => true

/-- Whether no two items are equal. -/
def pairsDiffer : List Value → Bool
  | [] => true
  | x :: rest => !rest.any (fun y => matching x y) && pairsDiffer rest

/-- Whether no item occurs twice. -/
def holds (items : List Value) : Bool :=
  match Value.sortWith? below? items with
  | some sorted => neighboursDiffer sorted
  | none => pairsDiffer items

end Distinct

end ApiRouter.Schema

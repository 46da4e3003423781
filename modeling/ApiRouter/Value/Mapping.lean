import ApiRouter.Error
import ApiRouter.Value

set_option autoImplicit false

/-! # Mappings from values, and mappings on top of one another -/

namespace ApiRouter

namespace Value

/-! ## Values that stand for mappings

A mapping may be given as a row of rows of two: what comes first in each is a key, and what comes
second is its value. A text is a row of its characters, and bytes are a row of numbers. -/

/-- The items of a row: of a list, a pair, a set, a text or bytes, or the keys of a mapping. -/
def row? : Value → Option (List Value)
  | .list items => some items
  | .map entries => some (entries.map fun e => .scalar e.1)
  | .pair a b => some [a, b]
  | .set members => some (members.map .scalar)
  | .text s => some (s.toList.map fun c => .text (String.ofList [c]))
  | .bytes b => some (b.map fun n => .int n.toNat)
  | .scalar _ | .endless => none

/-- The entry that a row of two stands for; only a scalar can be a key. -/
def entry (v : Value) : Except Defect (Scalar × Value) :=
  match v.row? with
  | some [.scalar k, x] => .ok (k, x)
  | some [_, _] => .error .wrongType
  | some _ => .error .badValue
  | none => .error .wrongType

/-- The mapping that a value is or stands for. -/
def mapping (v : Value) : Except Defect Entries :=
  match v, v.row? with
  | .map entries, _ => .ok entries
  | _, some items => Ordered.ofList <$> items.mapM entry
  | _, none => .error .wrongType

end Value

/-! ## Deep merging

One mapping laid on top of another: where both hold a mapping the two are merged in turn, and
everywhere else what lies on top counts. -/

mutual

/-- `top` laid on `base`. The keys of `base` come first and keep their order. -/
def Entries.merge (base : Entries) : (top : Entries) → Entries
  | [] => base
  | (k, v) :: rest =>
    Entries.merge (Ordered.insert base k (Value.mergeOnto (Ordered.find? base k) v)) rest

/-- A value laid on what was there before. -/
def Value.mergeOnto (old : Option Value) : (new : Value) → Value
  | .map new =>
    match old with
    | some (.map old) => .map (Entries.merge old new)
    | _ => .map new
  | .list new => .list new
  | .scalar new => .scalar new
  | .pair a b => .pair a b
  | .set members => .set members
  | .endless => .endless

end

end ApiRouter

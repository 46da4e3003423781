set_option autoImplicit false

/-! # Sets of code points

A character class is a table of inclusive ranges of code points, sorted and disjoint. -/

namespace ApiRouter.Text

/-- Sorted, disjoint, inclusive ranges of code points. -/
abbrev Ranges := Array (Nat × Nat)

namespace Ranges

/-- Binary search for the range that holds `n` among the indices `lo ≤ i < hi`. -/
def holdsBetween (table : Ranges) (n lo hi : Nat) : Bool :=
  if lo < hi then
    let mid := (lo + hi) / 2
    match table[mid]? with
    | none => false
    | some (first, last) =>
      if n < first then holdsBetween table n lo mid
      else if last < n then holdsBetween table n (mid + 1) hi
      else true
  else false
termination_by hi - lo

/-- Whether the set holds a code point, which need not be a character. -/
def holdsCode (table : Ranges) (n : Nat) : Bool :=
  holdsBetween table n 0 table.size

/-- Whether the set holds the character. -/
def holds (table : Ranges) (c : Char) : Bool :=
  table.holdsCode c.toNat

end Ranges

end ApiRouter.Text

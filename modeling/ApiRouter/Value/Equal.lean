import ApiRouter.Value

set_option autoImplicit false

/-! # Equality of document values

Two equalities of values. Both compare numbers by value across their kinds, lists in order and
mappings without regard to order. The loose one lets a boolean equal the numbers zero and one, as
keys do; the strict one keeps booleans apart from numbers at every depth. -/

namespace ApiRouter

namespace Scalar

/-- Equality that keeps booleans apart from numbers. -/
def sameStrict (a b : Scalar) : Bool :=
  match a, b with
  | .bool x, .bool y => x == y
  | .bool _, _ | _, .bool _ => false
  | a, b => same a b

end Scalar

namespace Value

mutual

/-- Equality of values, given that of scalars. -/
def equalBy (eq : Scalar → Scalar → Bool) : Value → Value → Bool
  | .scalar a, .scalar b => eq a b
  | .list xs, .list ys => equalItems eq xs ys
  | .map xs, .map ys => xs.length == ys.length && equalEntries eq xs ys
  | .pair a b, .pair c d => equalBy eq a c && equalBy eq b d
  | .set xs, .set ys => xs.length == ys.length && xs.all ys.contains
  | .endless, .endless => true
  | _, _ => false

/-- Equality of lists, item by item. -/
def equalItems (eq : Scalar → Scalar → Bool) : List Value → List Value → Bool
  | [], [] => true
  | x :: xs, y :: ys => equalBy eq x y && equalItems eq xs ys
  | _, _ => false

/-- Whether every entry has an equal one under the same key of the other mapping. -/
def equalEntries (eq : Scalar → Scalar → Bool) : Entries → Entries → Bool
  | [], _ => true
  | (k, x) :: xs, ys =>
    (match Ordered.find? ys k with
      | some y => equalBy eq x y
      | none => false) && equalEntries eq xs ys

end

/-- Equality in which a boolean equals the number zero or one. -/
def equal (a b : Value) : Bool := equalBy Scalar.same a b

/-- Equality in which booleans differ from numbers. -/
def equalStrict (a b : Value) : Bool := equalBy Scalar.sameStrict a b

end Value

end ApiRouter

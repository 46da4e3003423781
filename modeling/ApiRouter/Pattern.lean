import ApiRouter.Text.Case
import ApiRouter.Text.Digit
import ApiRouter.Text.Split
import ApiRouter.Text.Word

set_option autoImplicit false

/-! # Regular expressions

The syntax tree of a regular expression with captures, back references, look-around, lazy and
possessive repetition. Flags are resolved while reading: every leaf knows whether it ignores case,
keeps to ASCII or looks at lines. -/

namespace ApiRouter.Pattern

/-! ## Sets of characters -/

/-- The named classes. -/
inductive Category where
  | digit
  | space
  | word
  deriving DecidableEq, Repr

/-- A member of a character set. -/
inductive SetItem where
  | code (n : Nat)
  | range (low high : Nat)
  | category (c : Category) (negated : Bool)
  deriving DecidableEq, Repr

/-- A set of characters, given by its members or by those that it leaves out. -/
structure CharSet where
  negated : Bool
  items : List SetItem
  ignoreCase : Bool
  ascii : Bool
  deriving DecidableEq, Repr

/-- Whether a character is in a named class, of all scripts or of ASCII alone. -/
def Category.holds (ascii : Bool) (c : Char) : Category → Bool
  | .digit => if ascii then Text.isAsciiDigit c else Text.isDecimal c
  | .space => if ascii then [9, 10, 11, 12, 13, 32].contains c.toNat else Text.isBlank c
  | .word => if ascii then c.isAlphanum || c == '_' else Text.isWord c

/-- Small letters that share their capital with another small letter, in groups. -/
def caseSiblings : List (List Nat) := [
  [0x69, 0x131], [0x73, 0x17f], [0xb5, 0x3bc], [0x345, 0x3b9, 0x1fbe], [0x390, 0x1fd3],
  [0x3b0, 0x1fe3], [0x3b2, 0x3d0], [0x3b5, 0x3f5], [0x3b8, 0x3d1], [0x3ba, 0x3f0], [0x3c0, 0x3d6],
  [0x3c1, 0x3f1], [0x3c2, 0x3c3], [0x3c6, 0x3d5], [0x432, 0x1c80], [0x434, 0x1c81], [0x43e, 0x1c82],
  [0x441, 0x1c83], [0x442, 0x1c84, 0x1c85], [0x44a, 0x1c86], [0x463, 0x1c87], [0x1c88, 0xa64b],
  [0x1e61, 0x1e9b], [0xfb05, 0xfb06]
]

/-- The small letter of a character. -/
def smallOf (ascii : Bool) (c : Char) : Char :=
  if ascii then c.toLower else Text.lowerSimple c

/-- The small letter of a character, and those that share its capital. -/
def foldings (ascii : Bool) (c : Char) : List Nat :=
  let small := (smallOf ascii c).toNat
  if ascii then [small]
  else (caseSiblings.find? fun group => group.contains small).getD [small]

/-- The code points with the small letter `n`. -/
def capitalsOf (ascii : Bool) (n : Nat) : List Nat :=
  if ascii then (if 97 ≤ n && n ≤ 122 then [n, n - 32] else [n])
  else
    n :: (if n == 0x69 then [0x130] else []) ++ Text.lowerRuns.toList.filterMap fun r =>
      let m := (n : Int) - r.shift
      let inRun := (r.first : Int) ≤ m && m ≤ r.last && (m - r.first) % r.step == 0
      if inRun then some m.toNat else none

/-- Whether the character with a code point has another case. -/
def hasCase (ascii : Bool) (n : Nat) : Bool :=
  let small := (smallOf ascii (Char.ofNat n)).toNat
  small != n || (capitalsOf ascii small).length > 1

/-- Whether a member accounts for the code point of a character. -/
def SetItem.holds (ascii : Bool) (c : Char) : SetItem → Bool
  | .code n => c.toNat == n
  | .range low high => low ≤ c.toNat && c.toNat ≤ high
  | .category k negated => k.holds ascii c != negated

/-- The first code point beyond the basic plane. -/
def planeSize : Nat := 0x10000

/-- Whether two characters count as the same when case does not. -/
def sameFolded (ascii : Bool) (c : Char) (n : Nat) : Bool :=
  (foldings ascii c).any fun f => (capitalsOf ascii f).contains n

/-- Whether a member of several accounts for a character when case does not count. Beyond the basic
plane a range holds the small letters of its own members and the capitals in it; a single letter
there stands for itself, so that only a small one is found. -/
def SetItem.holdsFolded (ascii : Bool) (c : Char) : SetItem → Bool
  | .category k negated => k.holds ascii c != negated
  | .code n => if n < planeSize then sameFolded ascii c n else (smallOf ascii c).toNat == n
  | .range low high =>
    let basic := (foldings ascii c).any fun f =>
      (capitalsOf ascii f).any fun n => low ≤ n && n ≤ high && n < planeSize
    let small := (smallOf ascii c).toNat
    basic || (planeSize ≤ high &&
      (capitalsOf false small).any fun n => low ≤ n && n ≤ high)

/-- Whether the set holds a character. -/
def CharSet.holds (s : CharSet) (c : Char) : Bool :=
  let held :=
    if !s.ignoreCase then s.items.any fun i => i.holds s.ascii c
    else
      match s.items with
      | [.code n] => sameFolded s.ascii c n
      | items => items.any fun i => i.holdsFolded s.ascii c
  held != s.negated

/-! ## Syntax trees -/

/-- A place that a pattern may require without consuming anything. -/
inductive Anchor where
  | textStart
  | textEnd
  /-- The end, or the line break that is the last character. -/
  | finalLineEnd
  | lineStart
  | lineEnd
  | boundary (ascii : Bool)
  | noBoundary (ascii : Bool)
  deriving DecidableEq, Repr

/-- How a repetition chooses its count. -/
inductive Greed where
  | greedy
  | reluctant
  | possessive
  deriving DecidableEq, Repr

/-- Bounds on the number of characters that a part of a pattern consumes. -/
structure Width where
  low : Nat
  high : Nat
  deriving DecidableEq, Repr

/-- The upper bound of a width without one; all greater ones count as this one. -/
def unbounded : Nat := 4294967295

/-- The greatest lower bound of a width; all greater ones count as this one. -/
def greatestLow : Nat := unbounded - 1

/-- A width within the bounds of what is told apart. -/
def Width.ofBounds (low high : Nat) : Width :=
  ⟨min low greatestLow, min high unbounded⟩

inductive Node where
  | empty
  | one (set : CharSet)
  | anchor (place : Anchor)
  | seq (first second : Node)
  | alt (first second : Node)
  | repetition (greed : Greed) (low : Nat) (high : Option Nat) (body : Node)
  | capture (group : Nat) (body : Node)
  | atomic (body : Node)
  | ahead (negative : Bool) (body : Node)
  | behind (negative : Bool) (body : Node)
  | backReference (group : Nat) (ignoreCase ascii : Bool) (width : Width)
  | conditional (group : Nat) (whenSet otherwise : Node)
  deriving DecidableEq, Repr

namespace Node

/-- The widths that a part of a pattern may have. -/
def width : Node → Width
  | .empty => ⟨0, 0⟩
  | .one _ => ⟨1, 1⟩
  | .anchor _ => ⟨0, 0⟩
  | .seq a b => .ofBounds (a.width.low + b.width.low) (a.width.high + b.width.high)
  | .alt a b => ⟨min a.width.low b.width.low, max a.width.high b.width.high⟩
  | .repetition _ low high body =>
    let w := body.width
    let top := match high with
      | none => if w.high == 0 then 0 else unbounded
      | some n => w.high * n
    .ofBounds (w.low * low) top
  | .capture _ body => body.width
  | .atomic body => body.width
  | .ahead _ _ => ⟨0, 0⟩
  | .behind _ _ => ⟨0, 0⟩
  | .backReference _ _ _ w => w
  | .conditional _ a b => ⟨min a.width.low b.width.low, max a.width.high b.width.high⟩

/-- The nodes one after the other. -/
def sequence (nodes : List Node) : Node :=
  match nodes with
  | [] => .empty
  | [n] => n
  | n :: rest => .seq n (sequence rest)

end Node

end ApiRouter.Pattern

namespace ApiRouter

/-- A regular expression: its text, its syntax tree, and whether it keeps to ASCII as a whole. The text
of one for bytes has the characters with these codes. -/
structure Pattern where
  source : String
  root : Pattern.Node
  ascii : Bool
  deriving DecidableEq, Repr

end ApiRouter

import ApiRouter.Text.Digit
import ApiRouter.Text.Split

set_option autoImplicit false

/-! # Tables of characters

A charset of single bytes has a table of the characters of its last bytes; the bytes before them are
the numbers of their characters. In a table for pairs of bytes the first byte of a pair, or the row,
selects segments, each of which gives characters by the second byte, or the cell. -/

namespace ApiRouter.Text.Charset

/-! ## Single bytes -/

/-- The characters of the last bytes: sixteen numbers a row, in hexadecimal digits. A byte without a
character has the number of the replacement character. -/
structure SingleByte where
  rows : List String
  deriving DecidableEq, Repr

namespace SingleByte

/-- The characters of the last bytes. -/
def characters (t : SingleByte) : Array Char :=
  (t.rows.flatMap fun row =>
    (split ' ' row.toList).map fun digits => Char.ofNat ((hexNumber? digits).getD 0)).toArray

/-- The text of bytes. -/
def decode (t : SingleByte) (bytes : List Nat) : List Char :=
  let characters := t.characters
  let start := 256 - characters.size
  bytes.map fun b => if b < start then Char.ofNat b else characters.getD (b - start) replacement

end SingleByte

/-! ## Pairs of bytes -/

/-- Characters for one first byte, from a second byte on. A pair without a character has the
replacement character. -/
structure Segment where
  first : Nat
  start : Nat
  characters : String
  deriving DecidableEq, Repr

/-- The segments of a table. -/
abbrev DoubleByte := List Segment

namespace DoubleByte

/-- The character of a pair of bytes. -/
def find? (table : DoubleByte) (first second : Nat) : Option Char :=
  (table.findSome? fun s =>
    if s.first == first && s.start ≤ second then s.characters.toList[second - s.start]? else none)
  |>.filter (· != replacement)

end DoubleByte

end ApiRouter.Text.Charset

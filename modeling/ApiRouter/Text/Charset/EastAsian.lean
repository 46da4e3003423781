import ApiRouter.Text.Charset.Table.Hangul
import ApiRouter.Text.Charset.Table.Hanzi
import ApiRouter.Text.Charset.Table.HongKong
import ApiRouter.Text.Charset.Table.Kanji
import ApiRouter.Text.Charset.Table.Traditional

set_option autoImplicit false

/-! # East Asian charsets

Charsets in which ASCII characters take one byte and most others two. The standards arrange their
characters in rows and cells that count from 33; a charset either sets the highest bit of both, or
packs them otherwise. -/

namespace ApiRouter.Text.Charset

/-! ## Decoding step by step

In many charsets the bytes at the start of a text tell how many of them make the next character, and
some bytes only change how those after them are read. -/

/-- What the bytes at the start of a text are. -/
inductive Step where
  /-- So many bytes stand for characters. -/
  | produced (characters : List Char) (length : Nat)
  /-- So many bytes stand for nothing. -/
  | illegal (length : Nat)
  /-- The text ends too early. -/
  | incomplete
  deriving DecidableEq, Repr

namespace Step

/-- A character of so many bytes, or a first byte that stands for nothing. -/
def ofChar? (c : Option Char) (length : Nat) : Step :=
  match c with
  | some c => .produced [c] length
  | none => .illegal 1

/-- The bytes that may wait for others at most. -/
def longestWait : Nat := 8

/-- The characters of bytes, at most as many steps as the fuel says. What is too short at the end is
replaced as a whole; `none` stands for an end that is too long to wait for more. -/
def decode? {σ : Type} (next : σ → List Nat → σ × Step) : Nat → σ → List Nat → Option (List Char)
  | 0, _, _ => some []
  | _, _, [] => some []
  | fuel + 1, state, bytes =>
    match next state bytes with
    | (state, .produced cs length) => (decode? next fuel state (bytes.drop length)).map (cs ++ ·)
    | (state, .illegal length) =>
      (decode? next fuel state (bytes.drop length)).map (replacement :: ·)
    | (_, .incomplete) => if longestWait < bytes.length then none else some [replacement]

end Step

/-! ## The charsets -/

open DoubleByte

/-- The charsets of East Asia whose bytes are read without regard to those before. -/
inductive EastAsian where
  | big5
  | big5HongKong
  | big5Vendor
  | shiftJis
  | shiftJisVendor
  /-- With the second extension, in its first or its last edition. -/
  | shiftJisNew (isLast : Bool)
  | eucJp
  /-- With the second extension, in its first or its last edition. -/
  | eucJpNew (isLast : Bool)
  | eucKr
  | eucKrVendor
  | johab
  | gb2312
  | gbk
  | gb18030
  deriving DecidableEq, Repr

namespace EastAsian

/-- A row or a cell whose highest bit is set; a byte without it gives no cell. -/
def plain (b : Nat) : Nat := if 0x80 ≤ b then b - 0x80 else b + 0x80

/-! ## Chinese characters -/

/-- The character of two bytes in the larger charset. -/
def gbkChar? (a b : Nat) : Option Char :=
  hanziMore.find? a b <|> hanzi.find? (plain a) (plain b)

/-- The character of a private cell: those in whole rows are counted through. -/
def privateChar? (a b : Nat) : Option Char :=
  if 0xAA ≤ a && a ≤ 0xAF && 0xA1 ≤ b && b ≤ 0xFE then
    some (Char.ofNat (0xE000 + 94 * (a - 0xAA) + (b - 0xA1)))
  else if 0xF8 ≤ a && a ≤ 0xFE && 0xA1 ≤ b && b ≤ 0xFE then
    some (Char.ofNat (0xE234 + 94 * (a - 0xF8) + (b - 0xA1)))
  else if 0xA1 ≤ a && a ≤ 0xA7 && 0x40 ≤ b && b ≤ 0xA0 && b != 0x7F then
    some (Char.ofNat (0xE4C6 + 96 * (a - 0xA1) + (if b < 0x7F then b - 0x40 else b - 0x41)))
  else hanziPrivate.find? a b

/-- The character at a place in the order of four bytes. -/
def rowChar (place : Nat) : Char :=
  match fourByteRows.reverse.find? fun r => r.1 ≤ place with
  | some (start, first) => Char.ofNat (first + (place - start))
  | none => replacement

/-- The character of four bytes, the second and the last of which are digits. -/
def fourByteChar? (a b c d : Nat) : Option Char :=
  if a < 0x81 || 0xFE < a || c < 0x81 || 0xFE < c || d < 0x30 || 0x39 < d then none
  else
    let place (first : Nat) : Nat :=
      ((a - first) * 10 + (b - 0x30)) * 1260 + (c - 0x81) * 10 + (d - 0x30)
    if a < 0x85 then if place 0x81 < 39420 then some (rowChar (place 0x81)) else none
    else if 0x90 ≤ a then
      let n := 0x10000 + place 0x90
      if n ≤ 0x10FFFF then some (Char.ofNat n) else none
    else none

/-- The characters of two bytes with those of Hong Kong. -/
def hongKongChars? (a b : Nat) : Option (List Char) :=
  let isReplaced := a == 0xC7 || a == 0xC8 || (a == 0xC6 && 0xA1 ≤ b)
  let mark :=
    if a == 0x88 && (b == 0x62 || b == 0xA3) then [Char.ofNat 0x304]
    else if a == 0x88 && (b == 0x64 || b == 0xA5) then [Char.ofNat 0x30C]
    else []
  match hongKong.find? a b with
  | some c => some (c :: mark)
  | none => if isReplaced then none else (traditional.find? a b).map ([·])

/-! ## Japanese characters -/

/-- The narrow character of a byte. -/
def narrowKana? (b : Nat) : Option Char :=
  if 0xA1 ≤ b && b ≤ 0xDF then some (Char.ofNat (0xFEC0 + b)) else none

/-- The row and the cell that two packed bytes stand for. -/
def unpack? (a b : Nat) : Option (Nat × Nat) :=
  if b < 0x40 || b == 0x7F || 0xFC < b then none
  else
    let row := if a < 0xE0 then a - 0x81 else a - 0xC1
    let cell := if b < 0x80 then b - 0x40 else b - 0x41
    if cell < 0x5E then some (2 * row + 0x21, cell + 0x21)
    else some (2 * row + 0x22, cell - 0x5E + 0x21)

/-- The cells that only the last edition of the second extension fills. -/
def lastEdition : List (Nat × Nat) :=
  [(0x2E, 0x21), (0x2F, 0x7E), (0x4F, 0x54), (0x4F, 0x7E), (0x74, 0x27), (0x7E, 0x7A), (0x7E, 0x7B),
    (0x7E, 0x7C), (0x7E, 0x7D), (0x7E, 0x7E)]

/-- The marks after the characters of some cells. -/
def markOf? (row cell : Nat) : Option Char :=
  let isVoiceless := (row == 0x24 && 0x77 ≤ cell && cell ≤ 0x7B)
    || (row == 0x25 && 0x77 ≤ cell && cell ≤ 0x7E) || (row == 0x26 && cell == 0x78)
  if isVoiceless then some (Char.ofNat 0x309A)
  else if row != 0x2B then none
  else if [0x44, 0x48, 0x4A, 0x4C, 0x4E].contains cell then some (Char.ofNat 0x300)
  else if [0x49, 0x4B, 0x4D, 0x4F].contains cell then some (Char.ofNat 0x301)
  else if cell == 0x65 then some (Char.ofNat 0x2E5)
  else if cell == 0x66 then some (Char.ofNat 0x2E9)
  else none

/-- The characters of a cell among the basic ones, with the second extension. -/
def kanjiChars? (isLast : Bool) (row cell : Nat) : Option (List Char) :=
  if !isLast && lastEdition.contains (row, cell) then none
  else
    (kanji.find? row cell <|> kanjiNew.find? row cell).map fun c => c :: (markOf? row cell).toList

/-- The character of a cell beside the basic ones, with the second extension. -/
def secondChar? (isLast : Bool) (row cell : Nat) : Option Char :=
  if !isLast && row == 0x7D && cell == 0x3B then some (Char.ofNat 0x9B1D)
  else kanjiSecond.find? row cell

/-- The rows beside the basic ones that packed bytes reach, in their order. -/
def packedRows : List Nat :=
  [0x21, 0x28, 0x23, 0x24, 0x25, 0x2C, 0x2D, 0x2E, 0x2F] ++ (List.range 17).map (0x6E + ·)

/-- The characters of packed bytes, with the second extension. -/
def packedChars? (isLast : Bool) (a b : Nat) : Option (List Char) := do
  let (row, cell) ← unpack? a b
  if row == 0x21 && cell == 0x40 then some ['\\']
  else if row == 0x22 && cell == 0x32 then some ['~']
  else if row < 0x7F then kanjiChars? isLast row cell
  else (secondChar? isLast (← packedRows[row - 0x7F]?) cell).map ([·])

/-- The character of two bytes in a vendor's packed charset. -/
def vendorChar? (a b : Nat) : Option Char :=
  kanjiVendor.find? a b <|> do
    let (row, cell) ← unpack? a b
    if 0xF0 ≤ a && a ≤ 0xF9 then
      let place := if b < 0x80 then b - 0x40 else b - 0x41
      some (Char.ofNat (0xE000 + 188 * (a - 0xF0) + place))
    else if a ≤ 0xEA then kanji.find? row cell
    else none

/-! ## Korean characters -/

/-- The syllables of the standard, in order. -/
def standardSyllables : List Nat :=
  (hangul.filter fun s => 0x30 ≤ s.first && s.first ≤ 0x48).flatMap fun s =>
    s.characters.toList.map Char.toNat

/-- The syllable at a place among those that the standard leaves out. -/
def otherSyllable (place : Nat) : Char :=
  Char.ofNat (standardSyllables.foldl (fun n s => if s ≤ n then n + 1 else n) (0xAC00 + place))

/-- The character of two bytes in a vendor's charset. -/
def koreanVendorChar? (a b : Nat) : Option Char :=
  let column : Option Nat :=
    if 0x41 ≤ b && b ≤ 0x5A then some (b - 0x41)
    else if 0x61 ≤ b && b ≤ 0x7A then some (b - 0x61 + 26)
    else if 0x81 ≤ b && b ≤ 0xFE then some (b - 0x81 + 52)
    else none
  let place : Option Nat := column.bind fun column =>
    if 0x81 ≤ a && a ≤ 0xA0 then some ((a - 0x81) * 178 + column)
    else if 0xA1 ≤ a && a ≤ 0xC6 && column < 84 then some (32 * 178 + (a - 0xA1) * 84 + column)
    else none
  hangul.find? (plain a) (plain b)
    <|> (place.filter (· < 8822)).map otherSyllable

/-- The compatibility letters of the leading consonants of syllables. -/
def leadingLetters : List Nat :=
  [0x31, 0x32, 0x34, 0x37, 0x38, 0x39, 0x41, 0x42, 0x43, 0x45, 0x46, 0x47, 0x48, 0x49, 0x4A, 0x4B,
    0x4C, 0x4D, 0x4E]

/-- The compatibility letters of the trailing consonants of syllables. -/
def trailingLetters : List Nat :=
  [0x31, 0x32, 0x33, 0x34, 0x35, 0x36, 0x37, 0x39, 0x3A, 0x3B, 0x3C, 0x3D, 0x3E, 0x3F, 0x40, 0x41,
    0x42, 0x44, 0x45, 0x46, 0x47, 0x48, 0x4A, 0x4B, 0x4C, 0x4D, 0x4E]

/-- The place of the letter of a byte in a list of compatibility letters. -/
def placeOf? (letters : List Nat) (b : Nat) : Option Nat :=
  letters.findIdx? (· + 0x70 == b)

/-- The syllable that eight bytes spell, letter by letter; the second pair and those after it must
start as the first one. -/
def spelledSyllable? (bytes : List Nat) : Option Char :=
  match bytes with
  | [_, _, a, leading, b, vowel, c, trailing] => do
    if a != 0xA4 || b != 0xA4 || c != 0xA4 then none
    else
      let leading ← placeOf? leadingLetters leading
      let vowel ← if 0xBF ≤ vowel && vowel ≤ 0xD3 then some (vowel - 0xBF) else none
      let trailing ←
        if trailing == 0xD4 then some 0 else (placeOf? trailingLetters trailing).map (· + 1)
      some (Char.ofNat (0xAC00 + leading * 588 + vowel * 28 + trailing))
  | _ => none

/-- What five bits stand for in a syllable: a letter, or that there is none. -/
inductive Jamo where
  | letter (place : Nat)
  | none
  deriving DecidableEq, Repr

/-- The leading consonant of five bits. -/
def leading? (n : Nat) : Option Jamo :=
  if n == 1 then some .none else if 2 ≤ n && n ≤ 20 then some (.letter (n - 2)) else .none

/-- The vowel of five bits. -/
def vowel? (n : Nat) : Option Jamo :=
  if n == 2 then some .none
  else
    let column := n % 8
    let place :=
      if n < 8 then if 3 ≤ n then some (n - 3) else .none
      else if column < 2 then .none
      else some (5 + (n / 8 - 1) * 6 + (column - 2))
    (place.filter (· < 21)).map .letter

/-- The trailing consonant of five bits. -/
def trailing? (n : Nat) : Option Jamo :=
  if n == 1 then some .none
  else if 2 ≤ n && n ≤ 17 then some (.letter (n - 2))
  else if 19 ≤ n && n ≤ 29 then some (.letter (n - 3))
  else .none

/-- The character that two bytes spell in groups of five bits. -/
def syllableOfBits? (a b : Nat) : Option Char := do
  let leading ← leading? (a / 4 % 32)
  let vowel ← vowel? ((a * 8 + b / 32) % 32)
  let trailing ← trailing? (b % 32)
  let letter (n : Nat) : Char := Char.ofNat (0x3100 + n)
  match leading, vowel, trailing with
  | .none, .none, .none => some (Char.ofNat 0x3000)
  | .none, .none, .letter t => trailingLetters[t]?.map letter
  | .none, .letter v, .none => some (letter (0x4F + v))
  | .letter l, .none, .none => leadingLetters[l]?.map letter
  | .letter l, .letter v, .none => some (Char.ofNat (0xAC00 + l * 588 + v * 28))
  | .letter l, .letter v, .letter t => some (Char.ofNat (0xAC00 + l * 588 + v * 28 + (t + 1)))
  | _, _, _ => .none

/-- The character of two bytes in the charset that spells syllables. -/
def johabChar? (a b : Nat) : Option Char :=
  if a < 0xD8 then syllableOfBits? a b
  else if a == 0xD8 || a == 0xDF || 0xF9 < a || b < 0x31 || (0x80 ≤ b && b < 0x91)
      || b % 0x80 == 0x7F || (a == 0xDA && 0xA1 ≤ b && b ≤ 0xD3) then none
  else
    let row := if a < 0xE0 then 2 * (a - 0xD9) else 2 * a - 0x197
    let cell := if b < 0x91 then b - 0x31 else b - 0x43
    if cell < 0x5E then hangul.find? (row + 0x21) (cell + 0x21)
    else hangul.find? (row + 0x22) (cell - 0x5E + 0x21)

/-! ## Steps -/

/-- The character that a byte stands for alone. -/
def single? (charset : EastAsian) (b : Nat) : Option Char :=
  let ascii := if b < 0x80 then some (Char.ofNat b) else none
  match charset with
  | .shiftJis => ascii <|> narrowKana? b
  | .shiftJisVendor =>
    ascii <|> narrowKana? b
      <|> (if b == 0x80 then some (Char.ofNat 0x80)
        else if b == 0xA0 then some (Char.ofNat 0xF8F0)
        else if 0xFD ≤ b then some (Char.ofNat (0xF8F1 + (b - 0xFD)))
        else none)
  | .shiftJisNew _ =>
    if b == 0x5C then some (Char.ofNat 0xA5)
    else if b == 0x7E then some (Char.ofNat 0x203E)
    else ascii <|> narrowKana? b
  | _ => ascii

/-- The characters that two bytes stand for. -/
def pair? (charset : EastAsian) (a b : Nat) : Option (List Char) :=
  let one (c : Option Char) : Option (List Char) := c.map ([·])
  match charset with
  | .big5 => one (traditional.find? a b)
  | .big5HongKong => hongKongChars? a b
  | .big5Vendor => one (traditionalVendor.find? a b <|> traditional.find? a b)
  | .shiftJis => do
    let (row, cell) ← unpack? a b
    one (kanji.find? row cell)
  | .shiftJisVendor => one (vendorChar? a b)
  | .shiftJisNew isLast => packedChars? isLast a b
  | .eucJp => one (if a == 0x8E then narrowKana? b else kanji.find? (plain a) (plain b))
  | .eucJpNew isLast =>
    if a == 0x8E then one (narrowKana? b) else kanjiChars? isLast (plain a) (plain b)
  | .eucKr => one (hangul.find? (plain a) (plain b))
  | .eucKrVendor => one (koreanVendorChar? a b)
  | .johab => one (johabChar? a b)
  | .gb2312 => one (hanzi.find? (plain a) (plain b))
  | .gbk => one (gbkChar? a b)
  | .gb18030 => one (gbkChar? a b <|> privateChar? a b)

/-- The bytes that two bytes ask for together with others, if they do. -/
def longer? (charset : EastAsian) (a b : Nat) : Option Nat :=
  match charset with
  | .eucJp | .eucJpNew _ => if a == 0x8F then some 3 else none
  | .eucKr => if a == 0xA4 && b == 0xD4 then some 8 else none
  | .gb18030 => if 0x30 ≤ b && b ≤ 0x39 then some 4 else none
  | _ => none

/-- The character that more than two bytes stand for. -/
def longChar? (charset : EastAsian) (bytes : List Nat) : Option Char :=
  match charset, bytes with
  | .eucJp, [_, b, c] => kanjiMore.find? (plain b) (plain c)
  | .eucJpNew isLast, [_, b, c] =>
    secondChar? isLast (plain b) (plain c) <|> kanjiMore.find? (plain b) (plain c)
  | .gb18030, [a, b, c, d] => fourByteChar? a b c d
  | .eucKr, _ => spelledSyllable? bytes
  | _, _ => none

/-- Whether a byte never starts a pair. -/
def isNoFirst (charset : EastAsian) (a : Nat) : Bool :=
  match charset with
  | .shiftJis | .shiftJisNew _ => a == 0x80 || a == 0xA0 || 0xFD ≤ a
  | _ => false

/-- How many bytes stand for nothing where two bytes do not stand for characters: usually only the
first, but both in a cell that only a later edition fills. -/
def illegalLength (charset : EastAsian) (a b : Nat) : Nat :=
  let cell :=
    match charset with
    | .shiftJisNew false => unpack? a b
    | .eucJpNew false => some (plain a, plain b)
    | _ => none
  if cell.any lastEdition.contains then 2 else 1

/-- What the bytes at the start of a text are. -/
def next (charset : EastAsian) (bytes : List Nat) : Step :=
  match bytes with
  | [] => .incomplete
  | a :: rest =>
    match charset.single? a, rest with
    | some c, _ => .produced [c] 1
    | none, [] => if charset.isNoFirst a then .illegal 1 else .incomplete
    | none, b :: _ =>
      if charset.isNoFirst a then .illegal 1
      else
        match charset.longer? a b with
        | some length =>
          if bytes.length < length then .incomplete
          else .ofChar? (charset.longChar? (bytes.take length)) length
        | none =>
          match charset.pair? a b with
          | some cs => .produced cs 2
          | none => .illegal (charset.illegalLength a b)

/-- The characters of bytes. -/
def decode? (charset : EastAsian) (bytes : List Nat) : Option (List Char) :=
  Step.decode? (fun u bytes => (u, charset.next bytes)) bytes.length () bytes

end EastAsian

end ApiRouter.Text.Charset

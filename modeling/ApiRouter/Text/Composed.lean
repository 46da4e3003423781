import ApiRouter.Text.Composed.Table
import ApiRouter.Text.Digit
import ApiRouter.Text.Split

set_option autoImplicit false

/-! # Composed texts

A letter and its marks can often be written as one character or as several. A text is *composed* if
it holds as few characters as possible, its marks in a fixed order. The test takes the text apart,
sorts the marks, and puts it together again. Texts are given by their code points here. -/

namespace ApiRouter.Text.Composed

/-- A composed character and its two parts. -/
structure Pair where
  whole : Nat
  first : Nat
  second : Nat
  deriving DecidableEq, Repr

/-- The pair that an entry of the table describes. -/
def Pair.ofEntry? (entry : List Char) : Option Pair := do
  match (split ' ' entry).filter (!·.isEmpty) with
  | [whole, first, second] =>
    some ⟨← hexNumber? whole, ← hexNumber? first, ← hexNumber? second⟩
  | _ => none

/-- All pairs of the table. -/
def pairs : List Pair :=
  pairRows.flatMap fun row => (split ',' row.toList).filterMap Pair.ofEntry?

/-- The class of a mark; other characters are of class 0. -/
def classOf (n : Nat) : Nat :=
  ((classes.find? fun c => c.2.holdsCode n).map Prod.fst).getD 0

/-! ## Hangul

Syllables follow a rule: a leading consonant and a vowel, and perhaps a trailing consonant. -/

/-- The parts of a syllable of Hangul. -/
def splitSyllable? (n : Nat) : Option (Nat × Nat) :=
  if 0xAC00 ≤ n && n < 0xAC00 + 11172 then
    let i := n - 0xAC00
    if i % 28 == 0 then some (0x1100 + i / 588, 0x1161 + i % 588 / 28)
    else some (n - i % 28, 0x11A7 + i % 28)
  else none

/-- The syllable of two parts. -/
def joinSyllable? (first second : Nat) : Option Nat :=
  if 0x1100 ≤ first && first < 0x1113 && 0x1161 ≤ second && second < 0x1176 then
    some (0xAC00 + (first - 0x1100) * 588 + (second - 0x1161) * 28)
  else if 0xAC00 ≤ first && first < 0xAC00 + 11172 && (first - 0xAC00) % 28 == 0
      && 0x11A8 ≤ second && second < 0x11C3 then
    some (first + (second - 0x11A7))
  else none

/-! ## Taking apart and putting together -/

/-- The parts of a character. -/
def split? (table : List Pair) (n : Nat) : Option (Nat × Nat) :=
  splitSyllable? n <|> (table.find? (·.whole == n)).map fun p => (p.first, p.second)

/-- The character of two parts. -/
def join? (table : List Pair) (first second : Nat) : Option Nat :=
  joinSyllable? first second
    <|> (table.find? fun p => p.first == first && p.second == second).map Pair.whole

/-- The smallest parts of a character. The first part of a character has parts in turn, at most as
often as the fuel says. -/
def partsOf (table : List Pair) : Nat → Nat → List Nat
  | 0, n => [n]
  | fuel + 1, n =>
    match split? table n with
    | some (first, second) => partsOf table fuel first ++ [second]
    | none => [n]

/-- How deep the parts of a character lie at most. -/
def depth : Nat := 4

/-- Puts a mark into its place among the marks that end a text, the last one first. -/
def insertMark (n : Nat) : List Nat → List Nat
  | [] => [n]
  | m :: rest =>
    if 0 < classOf n && classOf n < classOf m then m :: insertMark n rest else n :: m :: rest

/-- Sorts the marks after each letter by their classes. -/
def sortMarks (codes : List Nat) : List Nat :=
  (codes.foldl (fun sorted n => insertMark n sorted) []).reverse

/-- Puts characters together: a letter and what is left of the marks after it, the last mark
first. -/
def joinFrom (table : List Pair) (letter : Option Nat) (marks : List Nat) : List Nat → List Nat
  | [] => letter.toList ++ marks.reverse
  | n :: rest =>
    let isNext := match marks with
      | [] => true
      | m :: _ => classOf m < classOf n
    match if isNext then letter.bind (join? table · n) else none with
    | some whole => joinFrom table (some whole) marks rest
    | none =>
      if classOf n == 0 then letter.toList ++ marks.reverse ++ joinFrom table (some n) [] rest
      else joinFrom table letter (n :: marks) rest

/-- Whether a text is composed. -/
def isComposed (codes : List Nat) : Bool :=
  let table := pairs
  !codes.any unstableRanges.holdsCode
    && joinFrom table none [] (sortMarks (codes.flatMap (partsOf table depth))) == codes

end ApiRouter.Text.Composed

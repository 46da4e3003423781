import ApiRouter.Text.Digit
import ApiRouter.Text.Split

set_option autoImplicit false

/-! # Tables of names

A table gives the names of characters in the order of their numbers. As names resemble each other, a
table says only where a name differs from the one before it. Its rows are made of:

* an equals sign and a number in base sixteen: the next name is that of this character;
* a letter from `a` on, perhaps a letter from `n` on, and words in capitals: the next name, which
  has as many words at its start as the first letter tells in common with the name before, no word
  for `a`, and as many at its end as the second letter tells, one word for `n`;
* a plus sign and a number: as many names, each of which is the one before with the number at its
  end counted up.

A name that no equals sign precedes belongs to the next character. -/

namespace ApiRouter.Text.Name

/-! ## Entries -/

/-- An entry of a table. -/
inductive Entry where
  | character (code : Nat)
  | name (front back : Nat) (words : List String)
  | run (length : Nat)
  deriving DecidableEq, Repr

/-- The words between spaces. -/
def wordsOf (cs : List Char) : List String :=
  if cs.isEmpty then [] else (split ' ' cs).map String.ofList

/-- The number that digits denote in base ten. -/
def numberOf (cs : List Char) : Nat :=
  cs.foldl (fun n c => 10 * n + (c.toNat - 48)) 0

/-- Whether a character starts an entry. -/
def startsEntry (c : Char) : Bool :=
  c == '=' || c == '+' || ('a' ≤ c && c < 'n')

/-- The number of words that a letter tells, counted from a letter that tells of none. -/
def countFrom (zero : Char) (c : Char) : Nat :=
  c.toNat - zero.toNat

/-- The entry with some characters. -/
def Entry.ofChars? : List Char → Option Entry
  | '=' :: digits => (hexNumber? digits).map .character
  | '+' :: digits => some (.run (numberOf digits))
  | front :: back :: words =>
    let front := countFrom 'a' front
    if 'n' ≤ back && back ≤ 'z' then some (.name front (countFrom 'm' back) (wordsOf words))
    else some (.name front 0 (wordsOf (back :: words)))
  | [front] => some (.name (countFrom 'a' front) 0 [])
  | [] => none

/-! ## Looking up -/

/-- A place in a table: the number of the next character, the words of the last name, and the number
of the character whose name was looked for, once it is found. -/
structure Cursor where
  next : Nat
  words : List String
  found : Option Nat

/-- The number at the end of a word, counted up, with as many digits as before if they suffice. -/
def countedUp (word : String) : String :=
  let digits := (word.toList.reverse.takeWhile Char.isDigit).reverse
  let number := toString (numberOf digits + 1)
  let zeros := List.replicate (digits.length - number.length) '0'
  String.ofList (word.toList.take (word.length - digits.length) ++ zeros) ++ number

/-- The words of a name with the number at its end counted up. -/
def withNextNumber (words : List String) : List String :=
  words.dropLast ++ (words.getLast?.map countedUp).toList

namespace Cursor

/-- Moves past a name. -/
def pass (target words : List String) (c : Cursor) : Cursor :=
  { next := c.next + 1, words, found := if words == target then some c.next else c.found }

/-- Moves past an entry. -/
def step (target : List String) (c : Cursor) : Entry → Cursor
  | .character code => { c with next := code }
  | .name front back words =>
    c.pass target (c.words.take front ++ words ++ c.words.drop (c.words.length - back))
  | .run length => length.repeat (fun c => c.pass target (withNextNumber c.words)) c

/-- Moves past an entry whose characters are given latest first. -/
def stepChars (target : List String) (c : Cursor) (entry : List Char) : Cursor :=
  match Entry.ofChars? entry.reverse with
  | some e => c.step target e
  | none => c

end Cursor

/-- Moves past the entries of a row. -/
def Cursor.stepRow (target : List String) (c : Cursor) (row : String) : Cursor :=
  let (c, last) := row.foldl (fun (c, entry) x =>
    if startsEntry x then (Cursor.stepChars target c entry, [x]) else (c, x :: entry))
    (c, ([] : List Char))
  c.stepChars target last

/-- The number of the character that has a name in a table, given as its words. -/
def findIn? (target : List String) (rows : List String) : Option Nat :=
  (rows.foldl (Cursor.stepRow target) ⟨0, [], none⟩).found

end ApiRouter.Text.Name

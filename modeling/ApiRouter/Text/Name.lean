import ApiRouter.Text.Name.Table
import ApiRouter.Text.Name.Table.Aliases
import ApiRouter.Text.Name.Table.EastAsian
import ApiRouter.Text.Name.Table.Forms
import ApiRouter.Text.Name.Table.Historic
import ApiRouter.Text.Name.Table.Latin
import ApiRouter.Text.Name.Table.Lesser
import ApiRouter.Text.Name.Table.Notation
import ApiRouter.Text.Name.Table.Pictorial
import ApiRouter.Text.Name.Table.Pictures
import ApiRouter.Text.Name.Table.Scripts
import ApiRouter.Text.Name.Table.Shapes
import ApiRouter.Text.Name.Table.Signs

set_option autoImplicit false

/-! # Characters by their names

Most names stand in tables. Those of some scripts follow a rule: they end in the number of the
character, or they spell a syllable. Capitals and small letters are the same in a name, except in
the names of Hangul syllables and unified ideographs. -/

namespace ApiRouter.Text.Name

/-! ## Hangul syllables

A syllable has a leading consonant, a vowel and perhaps a trailing consonant. Its name is made of
their short names, and its number of their places. -/

/-- The leading consonants, one of which is silent. -/
def leadingConsonants : List String :=
  ["G", "GG", "N", "D", "DD", "R", "M", "B", "BB", "S", "SS", "", "J", "JJ", "C", "K", "T", "P",
    "H"]

/-- The vowels. -/
def vowels : List String :=
  ["A", "AE", "YA", "YAE", "EO", "E", "YEO", "YE", "O", "WA", "WAE", "OE", "YO", "U", "WEO", "WE",
    "WI", "YU", "EU", "YI", "I"]

/-- The trailing consonants, the first of which stands for none. -/
def trailingConsonants : List String :=
  ["", "G", "GG", "GS", "N", "NJ", "NH", "D", "L", "LG", "LM", "LB", "LS", "LT", "LP", "LH", "M",
    "B", "BS", "S", "SS", "NG", "J", "C", "K", "T", "P", "H"]

/-- The place and the length of the longest of some short names that a text starts with. -/
def longestStart? (names : List String) (cs : List Char) : Option (Nat × Nat) :=
  names.zipIdx.foldl (fun best (name, i) =>
    if name.toList.isPrefixOf cs && best.all fun (_, length) => length < name.length then
      some (i, name.length)
    else best) none

/-- The number of the syllable that is named by what comes after the common start of the names. -/
def syllable? (cs : List Char) : Option Nat := do
  let (l, length) ← longestStart? leadingConsonants cs
  let cs := cs.drop length
  let (v, length) ← longestStart? vowels cs
  let cs := cs.drop length
  let (t, length) ← longestStart? trailingConsonants cs
  if (cs.drop length).isEmpty then
    some (0xAC00 + (l * vowels.length + v) * trailingConsonants.length + t)
  else none

/-! ## All characters -/

/-- All tables. -/
def tables : List (List String) :=
  [latin, semitic, indic, syllabic, lesser, signs, shapes, eastAsian, forms, ancient, historic,
    pictorial, musical, gestural, pictures, aliases]

/-- The characters whose names are common words with their numbers: the words and the first and last
numbers. -/
def numbered : List (String × Nat × Nat) := [
  ("CJK COMPATIBILITY IDEOGRAPH-", 0xF900, 0xFA6D),
  ("CJK COMPATIBILITY IDEOGRAPH-", 0xFA70, 0xFAD9),
  ("CJK COMPATIBILITY IDEOGRAPH-", 0x2F800, 0x2FA1D),
  ("KHITAN SMALL SCRIPT CHARACTER-", 0x18B00, 0x18CD5),
  ("NUSHU CHARACTER-", 0x1B170, 0x1B2FB)
]

/-- The unified ideographs. -/
def unifiedIdeographs : List (Nat × Nat) := [
  (0x3400, 0x4DBF), (0x4E00, 0x9FFF), (0x20000, 0x2A6DF), (0x2A700, 0x2B738), (0x2B740, 0x2B81D),
  (0x2B820, 0x2CEA1), (0x2CEB0, 0x2EBE0), (0x30000, 0x3134A)
]

/-- What follows the start of a text. -/
def afterStart? (start : String) (cs : List Char) : Option (List Char) :=
  if start.toList.isPrefixOf cs then some (cs.drop start.length) else none

/-- The number that hexadecimal digits in capitals denote. -/
def capitalHexNumber? (cs : List Char) : Option Nat :=
  if cs.all fun c => c.isDigit || c.isUpper then hexNumber? cs else none

/-- The unified ideograph whose number is written by four or five digits. -/
def unifiedIdeograph? (cs : List Char) : Option Nat := do
  if cs.length != 4 && cs.length != 5 then none
  else
    let n ← capitalHexNumber? cs
    if unifiedIdeographs.any fun r => r.1 ≤ n && n ≤ r.2 then some n else none

/-- The character whose name ends in its number, which is written without leading zeros. -/
def numbered? (cs : List Char) : Option Nat :=
  numbered.findSome? fun (start, first, last) => do
    let digits ← afterStart? start cs
    let n ← capitalHexNumber? digits
    if first ≤ n && n ≤ last && digits.head? != some '0' then some n else none

end ApiRouter.Text.Name

namespace ApiRouter.Text

/-- The number of the character that has a name. -/
def codeOfName? (name : String) : Option Nat :=
  match Name.afterStart? "HANGUL SYLLABLE " name.toList,
    Name.afterStart? "CJK UNIFIED IDEOGRAPH-" name.toList with
  | some rest, _ => Name.syllable? rest
  | none, some rest => Name.unifiedIdeograph? rest
  | none, none =>
    let capitals := name.toList.map Char.toUpper
    match Name.numbered? capitals with
    | some n => some n
    | none => Name.tables.findSome? (Name.findIn? (Name.wordsOf capitals))

end ApiRouter.Text

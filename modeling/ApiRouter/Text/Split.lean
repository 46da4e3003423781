set_option autoImplicit false

/-! # Splitting texts

The white space around a text, its parts between separators, and the ends of its lines. -/

namespace ApiRouter.Text

/-! ## White space -/

/-- The white-space characters, as inclusive ranges of code points. -/
def blankRanges : List (Nat × Nat) := [
  (9, 13), (28, 32), (133, 133), (160, 160), (5760, 5760), (8192, 8202), (8232, 8233),
  (8239, 8239), (8287, 8287), (12288, 12288)
]

/-- Whether the character is white space. -/
def isBlank (c : Char) : Bool :=
  blankRanges.any fun r => r.1 ≤ c.toNat && c.toNat ≤ r.2

/-- The text without the white space at its ends. -/
def trim (cs : List Char) : List Char :=
  ((cs.dropWhile isBlank).reverse.dropWhile isBlank).reverse

/-- The text without the white space at its ends. -/
def strip (s : String) : String :=
  String.ofList (trim s.toList)

/-! ## Parts -/

/-- The parts of a text between the occurrences of a character; there is always at least one. -/
def split (separator : Char) : List Char → List (List Char)
  | [] => [[]]
  | c :: rest =>
    if c = separator then [] :: split separator rest
    else
      match split separator rest with
      | part :: parts => (c :: part) :: parts
      | [] => [[c]]

/-- Every end of a line as a line feed: a carriage return, alone or before a line feed, is one
too. -/
def unifyNewlines : List Char → List Char
  | [] => []
  | '\r' :: '\n' :: rest => '\n' :: unifyNewlines rest
  | '\r' :: rest => '\n' :: unifyNewlines rest
  | c :: rest => c :: unifyNewlines rest

end ApiRouter.Text

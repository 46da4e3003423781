set_option autoImplicit false

/-! # Placed characters

The structure of a YAML text depends on lines and columns, so every character carries its place.
All ways to end a line are made alike first, and a mark after the last character stands for the
end. -/

namespace ApiRouter.Yaml

/-- A character and its place. -/
structure Glyph where
  char : Char
  index : Nat
  line : Nat
  column : Nat
  deriving DecidableEq, Repr, Inhabited

/-! ## Classes of characters -/

/-- The mark for the end of the text; no text holds it. -/
def endMark : Char := '\x00'

/-- The mark that may open a text and takes no column. -/
def byteOrderMark : Char := '\uFEFF'

/-- Whether a YAML text may hold the character. -/
def isAllowed (c : Char) : Bool :=
  let n := c.toNat
  n == 0x9 || n == 0xA || n == 0xD || (0x20 ≤ n && n ≤ 0x7E) || n == 0x85 ||
    (0xA0 ≤ n && n ≤ 0xFFFD) || 0x10000 ≤ n

/-- Whether the character ends a line. -/
def isBreak (c : Char) : Bool :=
  c == '\n' || c == '\u2028' || c == '\u2029'

/-- Whether the character ends a line or the text. -/
def endsLine (c : Char) : Bool :=
  isBreak c || c == endMark

/-- Whether the character is a space or ends a line. -/
def endsWord (c : Char) : Bool :=
  c == ' ' || endsLine c

/-- Whether the character is a space, a tab or ends a line. -/
def isGap (c : Char) : Bool :=
  c == '\t' || endsWord c

/-- Whether the character may stand in a name: an ASCII letter or digit, a hyphen or an
underscore. -/
def isNameChar (c : Char) : Bool :=
  c.isAlphanum || c == '-' || c == '_'

/-! ## Placing -/

/-- Carriage returns, alone or with a line feed, and next-line characters become line feeds. -/
def unifyBreaks : List Char → List Char
  | [] => []
  | '\r' :: '\n' :: rest => '\n' :: unifyBreaks rest
  | '\r' :: rest => '\n' :: unifyBreaks rest
  | '\u0085' :: rest => '\n' :: unifyBreaks rest
  | c :: rest => c :: unifyBreaks rest

/-- The characters with their places from the given one on, and the mark for the end. -/
def placeFrom (index line column : Nat) : List Char → List Glyph
  | [] => [⟨endMark, index, line, column⟩]
  | c :: rest =>
    ⟨c, index, line, column⟩ ::
      if isBreak c then placeFrom (index + 1) (line + 1) 0 rest
      else placeFrom (index + 1) line (if c == byteOrderMark then column else column + 1) rest

/-- A text with the place of every character. -/
def glyphsOf (text : String) : List Glyph :=
  placeFrom 0 0 0 (unifyBreaks text.toList)

/-! ## Looking ahead -/

/-- The character at a distance; past the text it is the mark for the end. -/
def charAt (t : List Glyph) (distance : Nat) : Char :=
  match t[distance]? with
  | some g => g.char
  | none => endMark

/-- The next character. -/
def charOf (t : List Glyph) : Char :=
  charAt t 0

/-- The next glyph. -/
def glyphOf (t : List Glyph) : Glyph :=
  t.headD ⟨endMark, 0, 0, 0⟩

/-- The next characters of a class, and what follows them. -/
def spanChars (p : Char → Bool) : List Glyph → List Char × List Glyph
  | [] => ([], [])
  | g :: rest =>
    if p g.char then
      let (cs, rest) := spanChars p rest
      (g.char :: cs, rest)
    else ([], g :: rest)

/-- What follows the next characters of a class. -/
def dropChars (p : Char → Bool) : List Glyph → List Glyph
  | [] => []
  | g :: rest => if p g.char then dropChars p rest else g :: rest

/-- What follows the next spaces. -/
def dropSpaces (t : List Glyph) : List Glyph :=
  dropChars (· == ' ') t

/-- Skips a comment, if one is next, up to the end of its line. -/
def dropComment (t : List Glyph) : List Glyph :=
  if charOf t == '#' then dropChars (fun c => !endsLine c) t else t

/-- Skips one line break, if it is next. -/
def dropBreak : List Glyph → List Glyph
  | [] => []
  | g :: rest => if isBreak g.char then rest else g :: rest

/-- Whether the next three characters are the given one and a gap follows them. -/
def isTripled (c : Char) (t : List Glyph) : Bool :=
  charAt t 0 == c && charAt t 1 == c && charAt t 2 == c && isGap (charAt t 3)

/-- Whether a mark between documents is next, given that a line starts here. -/
def atDocumentMark (t : List Glyph) : Bool :=
  isTripled '-' t || isTripled '.' t

end ApiRouter.Yaml

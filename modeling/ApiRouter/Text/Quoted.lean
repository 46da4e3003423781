import ApiRouter.Text.Printable

set_option autoImplicit false

/-! # Quoted texts

The form in which messages show a text: between quotes, with the characters that are not printable
escaped. Double quotes are used only for a text that holds single quotes and no double ones. -/

namespace ApiRouter.Text

/-- The small hexadecimal digits of `n`, at least `width` of them. -/
def hex (width n : Nat) : String :=
  let ds := Nat.toDigits 16 n
  String.ofList (List.replicate (width - ds.length) '0' ++ ds)

/-- The quote that surrounds a text. -/
def quoteFor (cs : List Char) : Char :=
  if cs.contains '\'' && !cs.contains '"' then '"' else '\''

/-- The escape of a character by its code. -/
def codeEscape (n : Nat) : String :=
  if n < 0x100 then "\\x" ++ hex 2 n
  else if n < 0x10000 then "\\u" ++ hex 4 n
  else "\\U" ++ hex 8 n

/-- One character of a text between the quotes `q`. -/
def quoteChar (q c : Char) : String :=
  if c == q || c == '\\' then String.ofList ['\\', c]
  else if c == '\n' then "\\n"
  else if c == '\r' then "\\r"
  else if c == '\t' then "\\t"
  else if isPrintable c then String.ofList [c]
  else codeEscape c.toNat

/-- The quoted form of a text. -/
def quoted (s : String) : String :=
  let cs := s.toList
  let q := quoteFor cs
  String.ofList [q] ++ String.join (cs.map (quoteChar q)) ++ String.ofList [q]

/-- A text with the characters outside of ASCII escaped. -/
def inAscii (s : String) : String :=
  String.join (s.toList.map fun c =>
    if c.toNat < 0x80 then String.ofList [c] else codeEscape c.toNat)

/-- The characters whose codes are the bytes. -/
def charsOfBytes (b : List UInt8) : List Char :=
  b.map fun n => Char.ofNat n.toNat

/-- The quoted form of bytes: those outside of ASCII are escaped, and a mark stands before. -/
def quotedBytes (b : List UInt8) : String :=
  let cs := charsOfBytes b
  let q := quoteFor cs
  let byte (c : Char) : String :=
    if c.toNat < 0x7F then quoteChar q c else "\\x" ++ hex 2 c.toNat
  "b" ++ String.ofList [q] ++ String.join (cs.map byte) ++ String.ofList [q]

end ApiRouter.Text

import ApiRouter.Error
import ApiRouter.Text.Charset.Backslash
import ApiRouter.Text.Charset.Escaped
import ApiRouter.Text.Charset.Table
import ApiRouter.Text.Charset.Wide
import ApiRouter.Text.Punycode
import ApiRouter.Text.Utf8

set_option autoImplicit false

/-! # Charsets

The ways in which bytes stand for text. Bytes that stand for nothing are replaced, so almost every
charset gives a text for any bytes. -/

namespace ApiRouter.Text

/-- A way in which bytes stand for text. -/
inductive Charset where
  | ascii
  /-- Every byte is the number of its character. -/
  | latin
  | singleByte (table : Charset.SingleByte)
  | eastAsian (charset : Charset.EastAsian)
  | escaped (charset : Charset.Escaped)
  /-- Chinese characters between tildes and braces. -/
  | tilde
  | utf7
  | utf8
  /-- UTF-8 that may start with a mark. -/
  | utf8Marked
  /-- Units of two bytes; without an order, a mark must tell it. -/
  | utf16 (order : Option Charset.ByteOrder)
  /-- Units of four bytes; without an order, a mark must tell it. -/
  | utf32 (order : Option Charset.ByteOrder)
  /-- Every byte is the number of its character, with a narrow or a wide set of escapes. -/
  | backslash (isWide : Bool)
  | punycode
  /-- A way to pack bytes into others, which gives no text. -/
  | packing
  /-- A way to hide text in other text, which takes no bytes. -/
  | cipher
  /-- A name for having no charset. -/
  | undefined
  deriving DecidableEq, Repr

namespace Charset

/-- The text of bytes in units of a width, whose order a mark must tell if none is given. Bytes that
fill no unit need no mark. -/
def decodeWide (width : Nat) (decode : ByteOrder → List Nat → List Char)
    (order : Option ByteOrder) (bytes : List Nat) : Except Defect (List Char) :=
  match order with
  | some order => .ok (decode order bytes)
  | none =>
    match readMark? width bytes with
    | some (order, rest) => .ok (decode order rest)
    | none => if bytes.length < width then .ok (decode .littleEnd bytes) else .error .unmarked

/-- The bytes after the mark of UTF-8, if they start with it. -/
def afterMark : List Nat → List Nat
  | 0xEF :: 0xBB :: 0xBF :: rest => rest
  | bytes => bytes

/-- The characters that bytes stand for in Punycode. Only what the last hyphen separates from the
digits may have bytes that are no ASCII characters. -/
def decodePunycode (bytes : List Nat) : Except Defect (List Char) :=
  let (plain, digits) := Punycode.splitDigits (· == 0x2D) bytes
  if digits.any (0x80 ≤ ·) then .error .undecodable
  else
    let plain := plain.map fun b => if b < 0x80 then b else replacement.toNat
    .ok ((Punycode.decodeParts plain (digits.map Char.ofNat)).1.map charOfCode)

/-- Characters, unless they cannot be told. -/
def orUnmarked (characters : Option (List Char)) : Except Defect (List Char) :=
  match characters with
  | some cs => .ok cs
  | none => .error .unmarked

/-- The characters that bytes stand for. -/
def decodeChars (charset : Charset) (bytes : List Nat) : Except Defect (List Char) :=
  match charset with
  | .ascii => .ok (bytes.map fun b => if b < 0x80 then Char.ofNat b else replacement)
  | .latin => .ok (bytes.map Char.ofNat)
  | .singleByte table => .ok (table.decode bytes)
  | .eastAsian charset => orUnmarked (charset.decode? bytes)
  | .escaped charset => orUnmarked (charset.decode? bytes)
  | .tilde => orUnmarked (Tilde.decode? bytes)
  | .utf7 => .ok (decodeUtf7 bytes)
  | .utf8 => .ok (Utf8.decodeLenient bytes)
  | .utf8Marked => .ok (Utf8.decodeLenient (afterMark bytes))
  | .utf16 order => decodeWide 2 decodeUtf16 order bytes
  | .utf32 order => decodeWide 4 decodeUtf32 order bytes
  | .backslash isWide => .ok (Backslash.decode isWide bytes)
  | .punycode => decodePunycode bytes
  | .packing => .error .packed
  | .cipher => .error .wrongType
  | .undefined => .error .unmarked

/-- The text that bytes stand for. -/
def decode (charset : Charset) (bytes : List Nat) : Except Defect String :=
  if bytes.isEmpty then .ok "" else String.ofList <$> charset.decodeChars bytes

end Charset

end ApiRouter.Text

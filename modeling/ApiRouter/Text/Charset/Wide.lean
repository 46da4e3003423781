import ApiRouter.Text.Base64
import ApiRouter.Text.Digit

set_option autoImplicit false

/-! # Charsets of wide units

UTF-16 and UTF-32 write text in units of two and four bytes. The order of the bytes in a unit is
fixed, or a mark at the start of the text tells it. What is no character is replaced. -/

namespace ApiRouter.Text.Charset

/-- The order of the bytes in a unit. -/
inductive ByteOrder where
  | bigEnd
  | littleEnd
  deriving DecidableEq, Repr

/-- The number that the bytes of a unit denote. -/
def ByteOrder.number (order : ByteOrder) (unit : List Nat) : Nat :=
  (if order == .bigEnd then unit else unit.reverse).foldl (fun n b => n * 256 + b) 0

/-- Whether a unit is the first half of a pair that denotes one character. -/
def isFirstHalf (n : Nat) : Bool := 0xD800 ≤ n && n < 0xDC00

/-- Whether a unit is the second half of a pair that denotes one character. -/
def isSecondHalf (n : Nat) : Bool := 0xDC00 ≤ n && n < 0xE000

/-- The character that two halves denote. -/
def joinHalves (first second : Nat) : Char :=
  Char.ofNat (0x10000 + (first - 0xD800) * 0x400 + (second - 0xDC00))

/-- The text of units of two bytes. The last unit may be cut off, and a half may stand alone. -/
def decodeUtf16 (order : ByteOrder) : List Nat → List Char
  | a :: b :: c :: d :: rest =>
    let first := order.number [a, b]
    let second := order.number [c, d]
    if isFirstHalf first && isSecondHalf second then
      joinHalves first second :: decodeUtf16 order rest
    else charOfCode first :: decodeUtf16 order (c :: d :: rest)
  | [a, b, _] =>
    let first := order.number [a, b]
    if isFirstHalf first then [replacement] else [charOfCode first, replacement]
  | [a, b] => [charOfCode (order.number [a, b])]
  | [_] => [replacement]
  | [] => []

/-- The text of units of four bytes. The last unit may be cut off. -/
def decodeUtf32 (order : ByteOrder) : List Nat → List Char
  | a :: b :: c :: d :: rest =>
    let n := order.number [a, b, c, d]
    (if n < 0x110000 then charOfCode n else replacement) :: decodeUtf32 order rest
  | [] => []
  | _ => [replacement]

/-- The order that the mark at the start of a text of units of a width tells, and what follows the
mark. -/
def readMark? (width : Nat) (bytes : List Nat) : Option (ByteOrder × List Nat) :=
  let mark := bytes.take width
  [ByteOrder.bigEnd, .littleEnd].findSome? fun order =>
    if mark.length == width && order.number mark == 0xFEFF then some (order, bytes.drop width)
    else none

/-! ## UTF-7

ASCII characters stand for themselves, except that a plus sign starts a section in which units of
two bytes are written in base 64. A section ends before the first character outside that alphabet; a
hyphen there only ends it. A plus sign and a hyphen stand for a plus sign. -/

/-- What is read of a section: bits that fill no unit yet, and a first half that waits for the
second. -/
structure Section where
  bits : Nat
  count : Nat
  half : Option Nat
  deriving DecidableEq, Repr

namespace Section

/-- A section at its start. -/
def empty : Section := ⟨0, 0, none⟩

/-- The characters that a waiting half and one more unit give, and the half that waits then. -/
def join (half : Option Nat) (unit : Nat) : List Char × Option Nat :=
  let alone : List Char × Option Nat :=
    if isFirstHalf unit then ([], some unit) else ([charOfCode unit], none)
  match half with
  | none => alone
  | some first =>
    if isSecondHalf unit then ([joinHalves first unit], none)
    else (charOfCode first :: alone.1, alone.2)

/-- The section with six more bits, and the characters that they complete. -/
def push (s : Section) (sextet : Nat) : Section × List Char :=
  let bits := s.bits * 64 + sextet
  let count := s.count + 6
  if count < 16 then (⟨bits, count, s.half⟩, [])
  else
    let scale := 1 <<< (count - 16)
    let (characters, half) := join s.half (bits / scale)
    (⟨bits % scale, count - 16, half⟩, characters)

/-- Whether bits are left over that do not merely fill the last group. -/
def isCutOff (s : Section) : Bool :=
  6 ≤ s.count || s.bits != 0

end Section

/-- Whether a byte stands for itself outside of sections. -/
def isDirect (b : Nat) : Bool := b < 0x80 && b != 0x2B

/-- The text of bytes, given the section that is open. -/
def decodeUtf7From : Option Section → List Nat → List Char
  | none, [] => []
  | some s, [] => if s.half.isSome || s.isCutOff then [replacement] else []
  | none, 0x2B :: 0x2D :: rest => '+' :: decodeUtf7From none rest
  | none, 0x2B :: b :: rest =>
    match Base64.sextet? (Char.ofNat b) with
    | some sextet => decodeUtf7From (some (Section.empty.push sextet).1) rest
    | none => replacement :: decodeUtf7From none rest
  | none, [0x2B] => []
  | none, b :: rest =>
    (if isDirect b then Char.ofNat b else replacement) :: decodeUtf7From none rest
  | some s, b :: rest =>
    match Base64.sextet? (Char.ofNat b) with
    | some sextet =>
      let (s, characters) := s.push sextet
      characters ++ decodeUtf7From (some s) rest
    | none =>
      if s.isCutOff then replacement :: decodeUtf7From none rest
      else
        let alone := match s.half with
          | some _ => if isDirect b then [replacement] else []
          | none => []
        if b == 0x2D then alone ++ decodeUtf7From none rest
        else if b == 0x2B then alone ++ decodeUtf7From none (b :: rest)
        else
          alone ++ (if isDirect b then Char.ofNat b else replacement) :: decodeUtf7From none rest
termination_by s bytes => (bytes.length, if s.isSome then 1 else 0)

/-- The text of bytes. -/
def decodeUtf7 (bytes : List Nat) : List Char :=
  decodeUtf7From none bytes

end ApiRouter.Text.Charset

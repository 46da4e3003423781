import ApiRouter.Text.Digit

set_option autoImplicit false

/-! # UTF-8

Decoding bytes to text. The first byte of a character fixes how many follow and, for some first
bytes, the range of the second. Strict decoding refuses a text with any other sequence; lenient
decoding puts the replacement character for each longest beginning of a character that is not
completed. -/

namespace ApiRouter.Text.Utf8

/-- What has to follow a first byte: how many bytes, and the range of the next one. -/
structure Expectation where
  count : Nat
  low : Nat
  high : Nat
  deriving DecidableEq, Repr

/-- The payload of a first byte and what has to follow it. -/
def lead? (b : Nat) : Option (Nat × Expectation) :=
  if b < 0x80 then some (b, ⟨0, 0x80, 0xBF⟩)
  else if 0xC2 ≤ b && b ≤ 0xDF then some (b - 0xC0, ⟨1, 0x80, 0xBF⟩)
  else if b == 0xE0 then some (0, ⟨2, 0xA0, 0xBF⟩)
  else if b == 0xED then some (0xD, ⟨2, 0x80, 0x9F⟩)
  else if 0xE1 ≤ b && b ≤ 0xEF then some (b - 0xE0, ⟨2, 0x80, 0xBF⟩)
  else if b == 0xF0 then some (0, ⟨3, 0x90, 0xBF⟩)
  else if 0xF1 ≤ b && b ≤ 0xF3 then some (b - 0xF0, ⟨3, 0x80, 0xBF⟩)
  else if b == 0xF4 then some (4, ⟨3, 0x80, 0x8F⟩)
  else none

/-- Where the decoder stands: between characters, or inside one with the payload read so far. -/
inductive State where
  | between
  | inside (payload : Nat) (next : Expectation)
  deriving DecidableEq, Repr

/-- Decodes bytes; `none` stands for a sequence that is no character. -/
def decodeFrom : State → List Nat → List (Option Char)
  | .between, [] => []
  | .inside _ _, [] => [none]
  | .between, b :: bs =>
    match lead? b with
    | none => none :: decodeFrom .between bs
    | some (payload, next) =>
      if next.count == 0 then some (Char.ofNat payload) :: decodeFrom .between bs
      else decodeFrom (.inside payload next) bs
  | .inside payload next, b :: bs =>
    if next.low ≤ b && b ≤ next.high then
      let payload := payload * 64 + (b - 0x80)
      if next.count == 1 then some (Char.ofNat payload) :: decodeFrom .between bs
      else decodeFrom (.inside payload ⟨next.count - 1, 0x80, 0xBF⟩) bs
    else
      -- the byte begins a character of its own
      match lead? b with
      | none => none :: none :: decodeFrom .between bs
      | some (payload, next) =>
        if next.count == 0 then none :: some (Char.ofNat payload) :: decodeFrom .between bs
        else none :: decodeFrom (.inside payload next) bs

/-- The text of the bytes, unless some sequence is no character. -/
def decode? (bytes : List Nat) : Option String :=
  ((decodeFrom .between bytes).mapM id).map String.ofList

/-- The text of the bytes, with a replacement character for whatever is none. -/
def decodeLenient (bytes : List Nat) : List Char :=
  (decodeFrom .between bytes).map fun c => c.getD replacement

/-- The bytes of a character. -/
def encodeChar (c : Char) : List Nat :=
  let n := c.toNat
  if n < 0x80 then [n]
  else if n < 0x800 then [0xC0 + n / 64, 0x80 + n % 64]
  else if n < 0x10000 then [0xE0 + n / 4096, 0x80 + n / 64 % 64, 0x80 + n % 64]
  else [0xF0 + n / 262144, 0x80 + n / 4096 % 64, 0x80 + n / 64 % 64, 0x80 + n % 64]

/-- The bytes of a text. -/
def encode (s : String) : List Nat :=
  s.toList.flatMap encodeChar

end ApiRouter.Text.Utf8

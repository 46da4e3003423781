set_option autoImplicit false

/-! # Base 64

Bytes written in an alphabet of sixty-four characters, four of which hold three bytes. Characters
outside the alphabet do not count. Equals signs end the text where they complete a group, and do
not count elsewhere. -/

namespace ApiRouter.Text.Base64

/-- The value of a character of the alphabet. -/
def sextet? (c : Char) : Option Nat :=
  if 'A' ≤ c && c ≤ 'Z' then some (c.toNat - 65)
  else if 'a' ≤ c && c ≤ 'z' then some (c.toNat - 71)
  else if '0' ≤ c && c ≤ '9' then some (c.toNat + 4)
  else if c == '+' then some 62
  else if c == '/' then some 63
  else none

/-- The bytes that the values of a group hold in full. -/
def bytesOf : List Nat → List UInt8
  | a :: b :: rest =>
    let first := UInt8.ofNat (a * 4 + b / 16)
    match rest with
    | [] => [first]
    | c :: rest =>
      let second := UInt8.ofNat (b % 16 * 16 + c / 4)
      match rest with
      | [] => [first, second]
      | d :: _ => [first, second, UInt8.ofNat (c % 4 * 64 + d)]
  | _ => []

/-- The bytes of a text, given the values of the group that is begun and the number of equals signs
after them. A text must not end within a group. -/
def decodeFrom (group : List Nat) (signs : Nat) : List Char → Option (List UInt8)
  | [] => if group.isEmpty then some [] else none
  | c :: rest =>
    if c == '=' then
      if group.length < 2 then decodeFrom group signs rest
      else if group.length + signs + 1 ≥ 4 then some (bytesOf group)
      else decodeFrom group (signs + 1) rest
    else
      match sextet? c with
      | none => decodeFrom group signs rest
      | some n =>
        if group.length < 3 then decodeFrom (group ++ [n]) 0 rest
        else (decodeFrom [] 0 rest).map (bytesOf (group ++ [n]) ++ ·)

/-- The bytes that a text denotes. -/
def decode? (text : String) : Option (List UInt8) :=
  decodeFrom [] 0 text.toList

end ApiRouter.Text.Base64

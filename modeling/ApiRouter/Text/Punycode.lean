set_option autoImplicit false

/-! # Punycode

Code points written in ASCII letters, digits and hyphens. The ASCII characters come first, then a
hyphen, then for each other code point, from the smallest to the largest, a number that tells its
place and its distance to the one before. The digits of a number are worth more or less as earlier
numbers were large or small. -/

namespace ApiRouter.Text.Punycode

/-- The value of a digit: a letter, capital or small, or one of `0` to `9`. -/
def digitValue? (c : Char) : Option Nat :=
  if 'a' ≤ c && c ≤ 'z' then some (c.toNat - 97)
  else if 'A' ≤ c && c ≤ 'Z' then some (c.toNat - 65)
  else if '0' ≤ c && c ≤ '9' then some (c.toNat - 22)
  else none

/-- The digit of a value. -/
def digit (value : Nat) : Char :=
  if value < 26 then Char.ofNat (value + 97) else Char.ofNat (value + 22)

/-- The value below which the digit at a place ends a number. -/
def threshold (place bias : Nat) : Nat :=
  let position := 36 * (place + 1)
  if position ≤ bias then 1 else min 26 (position - bias)

/-- Divides a distance until it is small, and counts the divisions. -/
def scaleDown (distance : Nat) : Nat × Nat :=
  if _h : 455 < distance then
    let (rest, count) := scaleDown (distance / 35)
    (rest, count + 1)
  else (distance, 0)
termination_by distance
decreasing_by exact Nat.div_lt_self (by omega) (by omega)

/-- The bias after a number, given how many code points there are then. -/
def adapt (distance size : Nat) (isFirst : Bool) : Nat :=
  let distance := if isFirst then distance / 700 else distance / 2
  let (rest, count) := scaleDown (distance + distance / size)
  36 * count + 36 * rest / (rest + 38)

/-! ## Reading -/

/-- A number at the start of a text, and the digits after it. -/
def readNumber? (bias place weight number : Nat) : List Char → Option (Nat × List Char)
  | [] => none
  | c :: rest => do
    let value ← digitValue? c
    let number := number + value * weight
    let t := threshold place bias
    if value < t then some (number, rest)
    else readNumber? bias (place + 1) (weight * (36 - t)) number rest

/-- Reads numbers and inserts the code points that they tell, at most as many as the fuel says, and
tells whether there was nothing else. Reading ends at what is no number; a question mark takes the
place of a code point that is too large. `code` and `position` are those that the next number counts
from. -/
def insertAll : Nat → List Nat → Nat → Nat → Nat → Bool → List Char → List Nat × Bool
  | _, codes, _, _, _, _, [] => (codes, true)
  | 0, codes, _, _, _, _, _ => (codes, false)
  | fuel + 1, codes, code, position, bias, isFirst, digits =>
    match readNumber? bias 0 1 0 digits with
    | none => (codes, false)
    | some (distance, rest) =>
      let size := codes.length + 1
      let position := position + distance
      let code := code + position / size
      let isCode := code ≤ 0x10FFFF
      let code := if isCode then code else '?'.toNat
      let place := position % size
      let codes := codes.take place ++ code :: codes.drop place
      let (codes, isWhole) :=
        insertAll fuel codes code (place + 1) (adapt distance size isFirst) false rest
      (codes, isCode && isWhole)

/-- The characters before the last hyphen, and those after it. -/
def splitDigits {α : Type} (isHyphen : α → Bool) (text : List α) : List α × List α :=
  let digits := (text.reverse.takeWhile (!isHyphen ·)).reverse
  ((text.take (text.length - digits.length)).dropLast, digits)

/-- The code points that code points and digits stand for, and whether the digits are all right. -/
def decodeParts (plain : List Nat) (digits : List Char) : List Nat × Bool :=
  insertAll digits.length plain 0x80 0 72 true digits

/-- The code points that a text of ASCII characters stands for. -/
def decode? (text : List Char) : Option (List Nat) :=
  let (plain, digits) := splitDigits (· == '-') text
  match decodeParts (plain.map Char.toNat) digits with
  | (codes, true) => some codes
  | _ => none

/-! ## Writing -/

/-- The digits of a number, at most as many as the fuel says. -/
def writeNumber (bias : Nat) : Nat → Nat → Nat → List Char
  | 0, _, _ => []
  | fuel + 1, place, number =>
    let t := threshold place bias
    if number < t then [digit number]
    else
      let rest := number - t
      digit (t + rest % (36 - t)) :: writeNumber bias fuel (place + 1) (rest / (36 - t))

/-- What is written so far, and what the next number depends on. -/
structure Writing where
  digits : List Char
  distance : Nat
  bias : Nat
  size : Nat

/-- Writes the code point `code` where it stands in a text, and counts the places before it. -/
def Writing.pass (codes : List Nat) (plain code : Nat) (w : Writing) : Writing :=
  codes.foldl (fun w n =>
    if n < code then { w with distance := w.distance + 1 }
    else if n == code then
      ⟨w.digits ++ writeNumber w.bias (w.distance + 1) 0 w.distance, 0,
        adapt w.distance (w.size + 1) (w.size == plain), w.size + 1⟩
    else w) w

/-- The digits for the code points that are no ASCII characters. -/
def writeAll (codes : List Nat) : List Char :=
  let plain := (codes.filter (· < 0x80)).length
  let others := ((codes.filter (0x80 ≤ ·)).mergeSort fun a b => a ≤ b).eraseReps
  let step := fun (wn : Writing × Nat) code =>
    let w := wn.1
    let w := { w with distance := w.distance + (code - wn.2) * (w.size + 1) }
    let w := w.pass codes plain code
    ({ w with distance := w.distance + 1 }, code + 1)
  (others.foldl step (⟨[], 0, 72, plain⟩, 0x80)).1.digits

/-- The ASCII characters that code points are written in. -/
def encode (codes : List Nat) : List Char :=
  let plain := (codes.filter (· < 0x80)).map Char.ofNat
  plain ++ (if plain.isEmpty then [] else ['-']) ++ writeAll codes

end ApiRouter.Text.Punycode

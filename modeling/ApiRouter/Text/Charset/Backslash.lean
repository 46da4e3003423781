import ApiRouter.Text.Name

set_option autoImplicit false

/-! # Bytes with backslash escapes

Every byte is the number of its character, and a backslash starts an escape. There is a narrow and a
wide set of escapes. An escape that is not completed is replaced. -/

namespace ApiRouter.Text.Charset.Backslash

/-- The hexadecimal digits at the start of bytes, at most so many, and the number that they denote
after another. -/
def readHex (number : Nat) : Nat → List Nat → Nat × Nat
  | 0, _ => (number, 0)
  | count + 1, bytes =>
    match bytes with
    | [] => (number, 0)
    | b :: rest =>
      match hexValue? (Char.ofNat b) with
      | some value =>
        let (number, length) := readHex (number * 16 + value) count rest
        (number, length + 1)
      | none => (number, 0)

/-- The character that some hexadecimal digits denote, or a replacement, and how many there are. -/
def hexEscape (count : Nat) (bytes : List Nat) : Char × Nat :=
  let (number, length) := readHex 0 count bytes
  (if length == count && number ≤ 0x10FFFF then charOfCode number else replacement, length)

/-- The number of hexadecimal digits in an escape. -/
def hexCount? (isWide : Bool) (kind : Char) : Option Nat :=
  match kind with
  | 'u' => some 4
  | 'U' => some 8
  | 'x' => if isWide then some 2 else none
  | _ => none

/-- Whether a byte is an octal digit. -/
def isOctal (b : Nat) : Bool := 0x30 ≤ b && b ≤ 0x37

/-- The character that an escape of one letter denotes. -/
def letter? (kind : Char) : Option Char :=
  match kind with
  | '\\' | '\'' | '"' => some kind
  | 'a' => some (Char.ofNat 7)
  | 'b' => some (Char.ofNat 8)
  | 't' => some '\t'
  | 'n' => some '\n'
  | 'v' => some (Char.ofNat 11)
  | 'f' => some (Char.ofNat 12)
  | 'r' => some '\r'
  | _ => none

/-- The character that a name between braces denotes, or a replacement, and the number of bytes. -/
def nameEscape (bytes : List Nat) : Char × Nat :=
  match bytes with
  | 0x7B :: rest =>
    let name := rest.takeWhile (· != 0x7D)
    if name.length == rest.length then (replacement, bytes.length)
    else if name.isEmpty then (replacement, 1)
    else
      let code := codeOfName? (String.ofList (name.map Char.ofNat))
      ((code.map Char.ofNat).getD replacement, name.length + 2)
  | _ => (replacement, 0)

/-- The characters that the bytes after a backslash denote in the wide set, and their number. -/
def wideEscape (kind : Nat) (rest : List Nat) : List Char × Nat :=
  if kind == 0x0A then ([], 1)
  else if kind == 0x4E then
    let (c, length) := nameEscape rest
    ([c], length + 1)
  else if isOctal kind then
    let digits := kind :: (rest.take 2).takeWhile isOctal
    ([Char.ofNat (digits.foldl (fun n d => n * 8 + (d - 0x30)) 0)], digits.length)
  else
    match letter? (Char.ofNat kind) with
    | some c => ([c], 1)
    | none => (['\\', Char.ofNat kind], 1)

/-- The characters that the bytes after a backslash denote, and their number. A backslash at the end
denotes itself in the narrow set only. -/
def escape (isWide : Bool) (bytes : List Nat) : List Char × Nat :=
  match bytes with
  | [] => ([if isWide then replacement else '\\'], 0)
  | kind :: rest =>
    match hexCount? isWide (Char.ofNat kind) with
    | some count =>
      let (c, length) := hexEscape count rest
      ([c], length + 1)
    | none => if isWide then wideEscape kind rest else (['\\', Char.ofNat kind], 1)

/-- The text of bytes, at most so many steps. -/
def decodeFrom (isWide : Bool) : Nat → List Nat → List Char
  | 0, _ => []
  | _, [] => []
  | fuel + 1, b :: rest =>
    if b == 0x5C then
      let (cs, length) := escape isWide rest
      cs ++ decodeFrom isWide fuel (rest.drop length)
    else Char.ofNat b :: decodeFrom isWide fuel rest

/-- The text of bytes. -/
def decode (isWide : Bool) (bytes : List Nat) : List Char :=
  decodeFrom isWide bytes.length bytes

end ApiRouter.Text.Charset.Backslash

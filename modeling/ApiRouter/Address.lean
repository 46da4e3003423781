import ApiRouter.Host
import ApiRouter.Text.Case
import ApiRouter.Text.Digit
import ApiRouter.Text.Numeral
import ApiRouter.Text.Quoted
import ApiRouter.Text.Utf8

set_option autoImplicit false

/-! # Web addresses

An address that is malformed is refused before anything is fetched. An address consists of a scheme,
an authority after two slashes, and what follows at the first slash, question mark or number sign.
The authority holds a user before an at sign, a host, and a port after a colon. -/

namespace ApiRouter.Address

/-- The length that an address may have at most. -/
def longestAddress : Nat := 65536

/-- Whether a character is an ASCII character that cannot be printed. -/
def isControl (c : Char) : Bool := c.toNat < 0x20 || c.toNat == 0x7F

/-- The authority of an address that starts with a scheme and two slashes. -/
def authority (address : List Char) : List Char :=
  let rest := (address.dropWhile (· != '/')).drop 2
  rest.takeWhile fun c => c != '/' && c != '?' && c != '#'

/-- What follows the last of some characters, or all of them if there is none. -/
def afterLast (separator : Char) (cs : List Char) : List Char :=
  (cs.reverse.takeWhile (· != separator)).reverse

/-- The host and the port of an authority. Brackets around the host may hold colons. -/
def hostAndPort (authority : List Char) : List Char × List Char :=
  let rest := afterLast '@' authority
  let tail := afterLast ']' rest
  let host :=
    if rest.head? == some '[' && rest.contains ']' then rest.take (rest.length - tail.length)
    else rest.takeWhile (· != ':')
  let port := rest.drop host.length
  (host, if port.head? == some ':' then port.tail else port)

/-! ## Numeric hosts -/

/-- Whether a host looks like four numbers: four rows of digits with one character of any kind,
even a digit, after each of the first three. -/
def looksNumeric (host : List Char) : Bool :=
  let rows := (host.splitBy fun a b => Text.isAsciiDigit a && Text.isAsciiDigit b).filter
    (·.all Text.isAsciiDigit)
  let others := (host.filter (!Text.isAsciiDigit ·)).length
  let more := rows.foldl (fun n row => n + (row.length - 1) / 2) 0
  others ≤ 3 && rows.length == others + 1 && 3 ≤ others + more

/-- Whether a text is a number below 256 without further zeros before it. -/
def isByte (digits : List Char) : Bool :=
  !digits.isEmpty && digits.length ≤ 3 && digits.all Text.isAsciiDigit
    && (digits.head? != some '0' || digits.length == 1) && Text.decimalNumber digits < 256

/-- Whether a text is a numeric host of four bytes. -/
def isFourBytes (host : List Char) : Bool :=
  let parts := Text.split '.' host
  parts.length == 4 && parts.all isByte

/-- Whether a text is a number of at most four hexadecimal digits. -/
def isGroup (digits : List Char) : Bool :=
  !digits.isEmpty && digits.length ≤ 4 && (Text.hexNumber? digits).isSome

/-- Whether parts between colons make a numeric host of eight groups. One empty part inside stands
for groups that are left out; nothing need stand before it, or after it. -/
def areEightGroups (parts : List (List Char)) : Bool :=
  let inner := parts.tail.dropLast
  match inner.countP (·.isEmpty) with
  | 0 => parts.length == 8 && parts.all isGroup
  | 1 =>
    let place := inner.findIdx (·.isEmpty) + 1
    let orNothing (side : List (List Char)) := if side == [[]] then [] else side
    let before := orNothing (parts.take place)
    let after := orNothing (parts.drop (place + 1))
    before.all isGroup && after.all isGroup && before.length + after.length < 8
  | _ => false

/-- Whether a text is a numeric host of eight groups, the last two of which may be four bytes. A
zone may follow a percent sign. -/
def isEightGroups (host : List Char) : Bool :=
  let number := host.takeWhile (· != '%')
  let zone := host.drop number.length
  let zoneFits := zone.isEmpty || (1 < zone.length && !zone.tail.contains '%')
  let parts := Text.split ':' number
  let last := parts.getLastD []
  let groups :=
    if !last.contains '.' then some parts
    else if isFourBytes last then some (parts.dropLast ++ [['0'], ['0']])
    else none
  zoneFits && 3 ≤ parts.length &&
    groups.any fun groups => groups.length ≤ 9 && areEightGroups groups

/-! ## Hosts -/

/-- Whether a character of a host stands for itself. -/
def isSafe (c : Char) : Bool :=
  c.isAlphanum || "-._~!$&'()*+,;=%|\\\"".contains c || c == Char.ofNat 0x60
    || c == Char.ofNat 0x7B || c == Char.ofNat 0x7D

/-- A host in which percent escapes stand for other characters. -/
def escapeHost (host : List Char) : List Char :=
  host.flatMap fun c =>
    if isSafe c then [c]
    else
      (Text.Utf8.encodeChar c).flatMap fun b => '%' :: (Text.hex 2 b).toList.map Char.toUpper

/-- Checks the form of a host. A fault in one that is brought into ASCII characters is one of the
address. -/
def checkHost (host : List Char) : Except Failure Unit :=
  let isFine :=
    if host.isEmpty then true
    else if looksNumeric host then isFourBytes host
    else if host.head? == some '[' && host.getLast? == some ']' && 1 < host.length then
      isEightGroups host.tail.dropLast
    else host.all (·.toNat < 0x80) || (Host.toPlain (Text.lower (String.ofList host)).toList).isOk
  if isFine then .ok () else defect .badAddress

/-- Checks once more the host of an address, where its ASCII characters stand for others. -/
def checkSecondForm (host : List Char) : Except Failure Unit :=
  if host.all (·.toNat < 0x80) then
    (Host.checkSecondForm (escapeHost (host.map Char.toLower))).mapError fun e =>
      .defect (.badHost e)
  else .ok ()

/-- Checks an address. -/
def check (address : String) : Except Failure Unit := do
  let cs := address.toList
  if longestAddress < cs.length || cs.any isControl then defect .badAddress
  let (host, port) := hostAndPort (authority cs)
  checkHost host
  if !port.isEmpty && (Text.readInt? (String.ofList port)).isNone then defect .badAddress
  checkSecondForm host

end ApiRouter.Address

import ApiRouter.Pattern.Reader.Token
import ApiRouter.Text.Name

set_option autoImplicit false

/-! # Escapes and character sets

What a backslash and the character after it stand for, inside and outside of a set in brackets. -/

namespace ApiRouter.Pattern.Reader

/-! ## Escapes -/

/-- The control characters that have an escape of their own. -/
def controlEscape? : Char → Option Nat
  | 'a' => some 7
  | 'b' => some 8
  | 'f' => some 12
  | 'n' => some 10
  | 'r' => some 13
  | 't' => some 9
  | 'v' => some 11
  | '\\' => some 92
  | _ => none

/-- The named classes and their complements. -/
def categoryEscape? : Char → Option SetItem
  | 'd' => some (.category .digit false)
  | 'D' => some (.category .digit true)
  | 's' => some (.category .space false)
  | 'S' => some (.category .space true)
  | 'w' => some (.category .word false)
  | 'W' => some (.category .word true)
  | _ => none

/-- An escape of exactly `size` hexadecimal digits. -/
def hexEscape (c : Char) (size : Nat) : Read Nat := do
  let ds ← nextWhile isHex size
  let token := String.ofList ('\\' :: c :: ds)
  if ds.length != size then refuse (.incompleteEscape token) token.length
  let n := numberOf 16 ds
  if n > 0x10ffff then refuse (.badEscape token) token.length
  return n

/-- An escape by the name of a character. -/
def namedEscape : Read Nat := do
  if !(← accept '\x7b') then refuse .missingBrace 0
  let name ← nextUntil '\x7d' .missingCharacterName .unterminatedCharacterName
    ((← get).rest.length + 1) ""
  match Text.codeOfName? name with
  | some n => return n
  | none => refuse (.undefinedCharacterName name) (name.length + 4)

/-- Whether a letter after a backslash starts an escape that only texts have. -/
def isTextEscape (c : Char) : Bool :=
  c == 'u' || c == 'U' || c == 'N'

/-- An escape that only texts have. -/
def textEscape (c : Char) : Read Nat :=
  if c == 'u' then hexEscape c 4 else if c == 'U' then hexEscape c 8 else namedEscape

/-- An escape inside a character set. -/
def setEscape (c : Char) : Read SetItem := do
  if let some n := controlEscape? c then return .code n
  if let some item := categoryEscape? c then return item
  if c == 'x' then return .code (← hexEscape c 2)
  if isTextEscape c && !(← get).ofBytes then return .code (← textEscape c)
  if isOctal c then
    let ds := c :: (← nextWhile isOctal 2)
    let n := numberOf 8 ds
    let token := String.ofList ('\\' :: ds)
    if n > 0o377 then refuse (.octalTooLarge token) token.length
    return .code n
  if Text.isAsciiDigit c || c.isAlpha then refuse (.badEscape (String.ofList ['\\', c])) 2
  return .code c.toNat

/-- A character of its own under the flags in force. -/
def literal (flags : Flags) (n : Nat) : Node :=
  .one ⟨false, [.code n], flags.ignoreCase, flags.ascii⟩

/-- Refuses a group that is still open, or that the surrounding look-behind itself opened. -/
def checkBehind (group : Nat) : Read Unit := do
  let s ← get
  if let some limit := s.behind then
    if group > s.groups.size || (s.groups[group - 1]?).join.isNone then refuse .openGroupReference 0
    if group > limit then refuse .siblingLookBehindReference 0

/-- A reference to a group by number; `size` is the length of the reference. -/
def reference (flags : Flags) (group size : Nat) : Read Node := do
  let s ← get
  if 0 < group && group ≤ s.groups.size then
    match (s.groups[group - 1]?).join with
    | none => refuse .openGroupReference size
    | some width =>
      checkBehind group
      return .backReference group flags.ignoreCase flags.ascii width
  else refuse (.invalidGroupReference group) (size - 1)

/-- A digit after a backslash: a reference to a group, or an octal code of three digits. -/
def numberEscape (flags : Flags) (c : Char) : Read Node := do
  match ← nextWhile Text.isAsciiDigit 1 with
  | [] => reference flags (numberOf 10 [c]) 2
  | d :: _ =>
    let third ← if isOctal c && isOctal d then nextWhile isOctal 1 else pure []
    match third with
    | [] => reference flags (numberOf 10 [c, d]) 3
    | e :: _ =>
      let n := numberOf 8 [c, d, e]
      let token := String.ofList ['\\', c, d, e]
      if n > 0o377 then refuse (.octalTooLarge token) token.length
      return literal flags n

/-- An escape outside character sets. -/
def escape (flags : Flags) (c : Char) : Read Node := do
  if c == 'A' then return .anchor .textStart
  if c == 'Z' then return .anchor .textEnd
  if c == 'b' then return .anchor (.boundary flags.ascii)
  if c == 'B' then return .anchor (.noBoundary flags.ascii)
  if let some item := categoryEscape? c then
    return .one ⟨false, [item], flags.ignoreCase, flags.ascii⟩
  if let some n := controlEscape? c then return literal flags n
  if c == 'x' then return literal flags (← hexEscape c 2)
  if isTextEscape c && !(← get).ofBytes then return literal flags (← textEscape c)
  if c == '0' then return literal flags (numberOf 8 (c :: (← nextWhile isOctal 2)))
  if Text.isAsciiDigit c then return ← numberEscape flags c
  if c.isAlpha then refuse (.badEscape (String.ofList ['\\', c])) 2
  return literal flags c.toNat

/-! ## Character sets -/

/-- A member of a set, or the first end of a range, from its token. -/
def setItem : Token → Read SetItem
  | .escape c => setEscape c
  | .plain c => return .code c.toNat

/-- The members of a set up to its closing bracket; `start` is the place of the opening one. -/
def setItems (start : Nat) : (fuel : Nat) → (taken : List SetItem) → Read (List SetItem)
  | 0, _ => refuseAt .unterminatedSet start
  | fuel + 1, taken => do
    match ← next with
    | none => refuseAt .unterminatedSet start
    | some t =>
      if t == .plain ']' && !taken.isEmpty then return taken.reverse
      let item ← setItem t
      if ← accept '-' then
        match ← next with
        | none => refuseAt .unterminatedSet start
        | some u =>
          if u == .plain ']' then return (.code 45 :: item :: taken).reverse
          let other ← setItem u
          match item, other with
          | .code low, .code high =>
            if high < low then refuse (.badRange t.text u.text) (t.size + 1 + u.size)
            setItems start fuel (.range low high :: taken)
          | _, _ => refuse (.badRange t.text u.text) (t.size + 1 + u.size)
      else setItems start fuel (item :: taken)

/-- A set after its opening bracket. -/
def charSet (flags : Flags) : Read Node := do
  let start := (← place) - 1
  let negated ← accept '^'
  let items ← setItems start ((← get).rest.length + 1) []
  return .one ⟨negated, items.eraseDups, flags.ignoreCase, flags.ascii⟩

end ApiRouter.Pattern.Reader

import ApiRouter.Text.Numeral
import ApiRouter.Text.Utf8
import ApiRouter.Yaml.Error
import ApiRouter.Yaml.Flow

set_option autoImplicit false

/-! # Anchors, tags and directives

The marks beside the content of a text: names for nodes, tags written in short or in full, and the
directives before a document. -/

namespace ApiRouter.Yaml

/-! ## Anchors -/

/-- The name after the indicator of an anchor or an alias. -/
def readName (t : List Glyph) : Except Error (String × List Glyph) :=
  let (name, rest) := spanChars isNameChar t
  let next := charOf rest
  if name.isEmpty || !(isGap next || "?:,]\x7d%@\x60".contains next) then refuse .badAnchor
  else .ok (String.ofList name, rest)

/-! ## Tags -/

/-- Whether the character may stand in the address of a tag. -/
def isAddressChar (c : Char) : Bool :=
  c.isAlphanum || "-;/?:@&=+$,_.!~*'()[]%".contains c

/-- The byte after a percent sign. -/
def percentByte? (t : List Glyph) : Option Nat :=
  Text.hexNumber? [charAt t 0, charAt t 1]

/-- The characters that bytes encode. -/
def charsOfBytes (bytes : List Nat) : Except Error (List Char) :=
  match Text.Utf8.decode? bytes with
  | some s => .ok s.toList
  | none => refuse .badTag

/-- The rest of an address after `skip` characters. Percent escapes in a row stand for the bytes of
characters; `bytes` are those since the last character that stands for itself. -/
def readAddressFrom (bytes : List Nat) (skip : Nat) :
    List Glyph → Except Error (List Char × List Glyph)
  | [] => .ok ([], [])
  | g :: rest =>
    match skip with
    | skip + 1 => readAddressFrom bytes skip rest
    | 0 =>
      if g.char == '%' then
        match percentByte? rest with
        | some byte => readAddressFrom (bytes ++ [byte]) 2 rest
        | none => refuse .badTag
      else if isAddressChar g.char then do
        let decoded ← charsOfBytes bytes
        let (more, rest) ← readAddressFrom [] 0 rest
        .ok (decoded ++ g.char :: more, rest)
      else do
        .ok (← charsOfBytes bytes, g :: rest)

/-- An address that is not empty. -/
def readAddress (t : List Glyph) : Except Error (String × List Glyph) := do
  let (cs, rest) ← readAddressFrom [] 0 t
  if cs.isEmpty then refuse .badTag else .ok (String.ofList cs, rest)

/-- A handle: an exclamation mark alone, or a name between two of them. -/
def readHandle (t : List Glyph) : Except Error (String × List Glyph) :=
  if charOf t != '!' then refuse .badTag
  else
    let rest := t.drop 1
    if charOf rest == ' ' then .ok ("!", rest)
    else
      let (name, rest) := spanChars isNameChar rest
      if charOf rest != '!' then refuse .badTag
      else .ok ("!" ++ String.ofList name ++ "!", rest.drop 1)

/-- A tag as it is written: in full, or with a handle that stands for the beginning of the
address. -/
structure TagText where
  handle : Option String
  address : String
  deriving DecidableEq, Repr

/-- A tag after its exclamation mark, which is the first character of `t`. -/
def readTag (t : List Glyph) : Except Error (TagText × List Glyph) := do
  let inner := t.drop 1
  let (tag, rest) ←
    if charOf inner == '<' then do
      let (address, rest) ← readAddress (inner.drop 1)
      if charOf rest != '>' then refuse .badTag else .ok (⟨none, address⟩, rest.drop 1)
    else if isGap (charOf inner) then .ok (⟨none, "!"⟩, inner)
    else do
      let (word, _) := spanChars (fun c => !endsWord c) inner
      let (handle, rest) ← if word.contains '!' then readHandle t else .ok ("!", inner)
      let (address, rest) ← readAddress rest
      .ok (⟨some handle, address⟩, rest)
  if endsWord (charOf rest) then .ok (tag, rest) else refuse .badTag

/-! ## Directives -/

/-- A directive before a document. -/
inductive Directive where
  | version (major : Nat)
  | handle (handle address : String)
  | other
  deriving DecidableEq, Repr

/-- One number of a version. -/
def readVersionPart (t : List Glyph) : Except Error (Nat × List Glyph) :=
  let (digits, rest) := spanChars Char.isDigit t
  if digits.isEmpty then refuse .badDirective
  else if digits.length > Text.maxDigits then .error (.defect .badValue)
  else .ok (Text.decimalNumber digits, rest)

/-- The two numbers of a version; the first one counts. -/
def readVersion (t : List Glyph) : Except Error (Directive × List Glyph) := do
  let (major, rest) ← readVersionPart (dropSpaces t)
  if charOf rest != '.' then refuse .badDirective
  else
    let (_, rest) ← readVersionPart (rest.drop 1)
    if endsWord (charOf rest) then .ok (.version major, rest) else refuse .badDirective

/-- A handle and the beginning of an address. -/
def readHandleRule (t : List Glyph) : Except Error (Directive × List Glyph) := do
  let (handle, rest) ← readHandle (dropSpaces t)
  if charOf rest != ' ' then refuse .badDirective
  else
    let (address, rest) ← readAddress (dropSpaces rest)
    if endsWord (charOf rest) then .ok (.handle handle address, rest) else refuse .badDirective

/-- A directive after its percent sign, up to the end of its line. -/
def readDirective (t : List Glyph) : Except Error (Directive × List Glyph) := do
  let (name, rest) := spanChars isNameChar t
  if name.isEmpty || !endsWord (charOf rest) then refuse .badDirective
  else
    let (directive, rest) ←
      match String.ofList name with
      | "YAML" => readVersion rest
      | "TAG" => readHandleRule rest
      | _ => .ok (.other, dropChars (fun c => !endsLine c) rest)
    let rest := dropComment (dropSpaces rest)
    if endsLine (charOf rest) then .ok (directive, dropBreak rest) else refuse .badDirective

end ApiRouter.Yaml

import ApiRouter.Error
import ApiRouter.Host.Characters
import ApiRouter.Host.Direction
import ApiRouter.Host.Joining
import ApiRouter.Text.Combining
import ApiRouter.Text.Composed
import ApiRouter.Text.Punycode

set_option autoImplicit false

/-! # Labels of host names

A host name consists of labels with periods between them. A label holds letters, digits and hyphens
of any script, in composed form; some further characters may stand only beside certain others. A
label with other than ASCII characters has a second form, which starts with `xn--`. Labels are given
by their code points here. -/

namespace ApiRouter.Host

open Text

/-! ## Characters that depend on others -/

/-- The class of the sign that takes the vowel from a letter. -/
def vowelKillerClass : Nat := 9

/-- Whether the characters before a place, the nearest first, and those after it join across it. -/
def joinsAcross (before after : List Nat) : Bool :=
  let joins (oneSided : Ranges) (codes : List Nat) : Bool :=
    match codes.find? fun n => !transparentRanges.holdsCode n with
    | some n => dualJoiningRanges.holdsCode n || oneSided.holdsCode n
    | none => false
  joins leftJoiningRanges before && joins rightJoiningRanges after

/-- Whether a joiner may stand after some characters, the nearest first, and before others. -/
def joinerFits (n : Nat) (before after : List Nat) : Bool :=
  match before with
  | m :: _ => Composed.classOf m == vowelKillerClass || (n == 0x200C && joinsAcross before after)
  | [] => false

/-- Whether there is a code point and a set holds it. -/
def isIn (table : Ranges) (code : Option Nat) : Bool :=
  code.any table.holdsCode

/-- Whether a sign that asks for others may stand after some characters, the nearest first, and
before others; `none` if it is no such sign. -/
def signFits? (n : Nat) (before after : List Nat) : Option Bool :=
  let isArabic (m : Nat) : Bool := 0x660 ≤ m && m ≤ 0x669
  let isExtended (m : Nat) : Bool := 0x6F0 ≤ m && m ≤ 0x6F9
  let others := before ++ after
  if n == 0xB7 then some (before.head? == some 0x6C && after.head? == some 0x6C)
  else if n == 0x375 then some (isIn greekRanges after.head?)
  else if n == 0x5F3 || n == 0x5F4 then some (isIn hebrewRanges before.head?)
  else if n == 0x30FB then some (others.any fun m => m != n && japaneseRanges.holdsCode m)
  else if isArabic n then some (!others.any isExtended)
  else if isExtended n then some (!others.any isArabic)
  else none

/-- Checks the code points of a label from left to right, given those before, the nearest first. -/
def checkCodes (before : List Nat) : List Nat → Except HostFault Unit
  | [] => .ok ()
  | n :: after =>
    let next := checkCodes (n :: before) after
    if validRanges.holdsCode n then next
    else if n == 0x200C || n == 0x200D then
      if joinerFits n before after then next else .error .malformed
    else
      match signFits? n before after with
      | some true => next
      | some false => .error .wrongContext
      | none => .error .badCharacter

/-! ## Labels -/

/-- Checks a label that is written in its own characters. -/
def checkLabel (codes : List Nat) : Except HostFault Unit := do
  let hyphen := '-'.toNat
  match codes with
  | [] => .error .malformed
  | first :: _ =>
    if !Composed.isComposed codes then .error .malformed
    if (codes.drop 2).take 2 == [hyphen, hyphen] then .error .malformed
    if first == hyphen || codes.getLast? == some hyphen then .error .malformed
    if combiningRanges.holdsCode first then .error .malformed
    checkCodes [] codes
    if !isReadable codes then .error .mixedDirections

/-- What the second form of a label starts with. -/
def secondFormMark : List Char := "xn--".toList

/-- Checks a label of ASCII characters, in either form. -/
def checkPlainLabel (label : List Char) : Except HostFault Unit :=
  let label := label.map Char.toLower
  if !secondFormMark.isPrefixOf label then checkLabel (label.map Char.toNat)
  else
    let rest := label.drop secondFormMark.length
    if rest.isEmpty || rest.getLast? == some '-' then .error .malformed
    else
      match Punycode.decode? rest with
      | some codes => checkLabel codes
      | none => .error .malformed

/-- The length that a label may have at most. -/
def longestLabel : Nat := 63

/-- Checks a label and gives it in ASCII characters. -/
def plainLabel (label : List Char) : Except HostFault (List Char) := do
  let plain ←
    if label.all (·.toNat < 0x80) then do
      checkPlainLabel label
      .ok label
    else do
      let codes := label.map Char.toNat
      checkLabel codes
      .ok (secondFormMark ++ Punycode.encode codes)
  if longestLabel < plain.length then .error .malformed else .ok plain

end ApiRouter.Host

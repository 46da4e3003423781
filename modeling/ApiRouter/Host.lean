import ApiRouter.Host.Label
import ApiRouter.Text.Split

set_option autoImplicit false

/-! # Host names

A host name is checked in one of two ways: one with other than ASCII characters when it is brought
into ASCII characters, and one in ASCII characters when its second form is read. -/

namespace ApiRouter.Host

/-- The labels of a host name, and whether a period ends it. Some other characters count as
periods. -/
def labels (host : List Char) : List (List Char) × Bool :=
  let periods := [0x3002, 0xFF0E, 0xFF61]
  let parts := Text.split '.' (host.map fun c => if periods.contains c.toNat then '.' else c)
  if parts.getLast? == some [] && 1 < parts.length then (parts.dropLast, true) else (parts, false)

/-- The length that a host name may have at most, apart from a period that ends it. -/
def longestHost : Nat := 253

/-- Checks a host name and brings it into ASCII characters. -/
def toPlain (host : List Char) : Except HostFault (List Char) := do
  let (parts, isEnded) := labels host
  let plain ← parts.mapM plainLabel
  let host := ['.'].intercalate plain
  if longestHost < host.length then .error .malformed
  else .ok (if isEnded then host ++ ['.'] else host)

/-- Checks a host name of ASCII characters whose first label is in the second form. -/
def checkSecondForm (host : List Char) : Except HostFault Unit := do
  if secondFormMark.isPrefixOf host then
    let _ ← (labels host).1.mapM checkPlainLabel

end ApiRouter.Host

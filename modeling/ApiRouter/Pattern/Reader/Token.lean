import ApiRouter.Pattern
import ApiRouter.Pattern.Cause
import ApiRouter.Text.Digit

set_option autoImplicit false

/-! # Tokens of regular expressions

Reading takes an expression from left to right, token by token: a character, or a backslash with
the character after it. What reading has learnt so far, such as the groups that are open, goes
along with the rest of the text. -/

namespace ApiRouter.Pattern.Reader

/-! ## Tokens -/

/-- A character, or a backslash with the character that it escapes. -/
inductive Token where
  | plain (c : Char)
  | escape (c : Char)
  deriving DecidableEq, Repr

namespace Token

def text : Token → String
  | .plain c => String.ofList [c]
  | .escape c => String.ofList ['\\', c]

def size : Token → Nat
  | .plain _ => 1
  | .escape _ => 2

end Token

/-- The flags in force. -/
structure Flags where
  ignoreCase : Bool
  multiline : Bool
  dotAll : Bool
  verbose : Bool
  ascii : Bool
  unicode : Bool
  /-- Classes and cases are those of the surroundings. -/
  locale : Bool
  /-- No part of the expression may be repeated. -/
  template : Bool
  deriving DecidableEq, Repr

namespace Flags

def none : Flags := ⟨false, false, false, false, false, false, false, false⟩

/-- All flags of both. -/
def union (a b : Flags) : Flags :=
  ⟨a.ignoreCase || b.ignoreCase, a.multiline || b.multiline, a.dotAll || b.dotAll,
    a.verbose || b.verbose, a.ascii || b.ascii, a.unicode || b.unicode, a.locale || b.locale,
    a.template || b.template⟩

/-- The flags common to both. -/
def inter (a b : Flags) : Flags :=
  ⟨a.ignoreCase && b.ignoreCase, a.multiline && b.multiline, a.dotAll && b.dotAll,
    a.verbose && b.verbose, a.ascii && b.ascii, a.unicode && b.unicode, a.locale && b.locale,
    a.template && b.template⟩

/-- Whether one of the flags chooses which characters count as letters. -/
def choosesScript (f : Flags) : Bool :=
  f.ascii || f.unicode || f.locale

/-- Whether the flags choose between scripts in more than one way. -/
def contradict (f : Flags) : Bool :=
  f.ascii && (f.unicode || f.locale) || f.unicode && f.locale

/-- The flags of a group that turns some on and some off; a choice of script replaces the outer
one. -/
def within (outer on off : Flags) : Flags :=
  let outer :=
    if on.choosesScript then { outer with ascii := false, unicode := false, locale := false }
    else outer
  let all := outer.union on
  ⟨all.ignoreCase && !off.ignoreCase, all.multiline && !off.multiline, all.dotAll && !off.dotAll,
    all.verbose && !off.verbose, all.ascii, all.unicode, all.locale,
    all.template⟩

/-- The flag that a letter names. -/
def ofLetter? : Char → Option Flags
  | 'i' => some { none with ignoreCase := true }
  | 'm' => some { none with multiline := true }
  | 's' => some { none with dotAll := true }
  | 'x' => some { none with verbose := true }
  | 'a' => some { none with ascii := true }
  | 'u' => some { none with unicode := true }
  | 't' => some { none with template := true }
  | 'L' => some { none with locale := true }
  | _ => Option.none

end Flags

/-- What the reader knows between two tokens. -/
structure State where
  /-- The length of the whole expression. -/
  total : Nat
  rest : List Char
  /-- The flags for the whole expression. -/
  flags : Flags
  /-- The widths of the groups opened so far, group one first; an open group has none yet. -/
  groups : Array (Option Width)
  names : List (String × Nat)
  /-- Inside a look-behind, the number of groups opened before it. -/
  behind : Option Nat
  /-- The groups that conditions ask for, each with its first place. -/
  conditions : List (Nat × Nat)
  /-- The characters stand for bytes. -/
  ofBytes : Bool

/-- What is known before the first of some characters. -/
def State.start (ofBytes : Bool) (cs : List Char) : State :=
  ⟨cs.length, cs, Flags.none, #[], [], none, [], ofBytes⟩

/-- The flags of the whole expression as its parts see them: bytes keep to ASCII. -/
def State.scope (s : State) : Flags :=
  if s.ofBytes then { s.flags with ascii := true } else s.flags

abbrev Read := StateT State (Except Error)

/-- The number of characters read. -/
def place : Read Nat := do
  let s ← get
  return s.total - s.rest.length

/-- Refuses the expression at a place. -/
def refuseAt {α : Type} (cause : Cause) (n : Nat) : Read α :=
  throw (.malformed cause (some n))

/-- Refuses the expression `back` characters before the place reached. -/
def refuse {α : Type} (cause : Cause) (back : Nat) : Read α := do
  refuseAt cause ((← place) - back)

/-- The next token. -/
def peek : Read (Option Token) := do
  match (← get).rest with
  | [] => return none
  | '\\' :: c :: _ => return some (.escape c)
  | c :: _ => return some (.plain c)

/-- Goes to the given rest of the expression; a single backslash there is refused at once. -/
def goTo (rest : List Char) : Read Unit := do
  if rest == ['\\'] then throw (.malformed .trailingBackslash (some ((← get).total - 1)))
  modify fun s => { s with rest := rest }

/-- The next token, which is then behind. -/
def next : Read (Option Token) := do
  let t ← peek
  match t with
  | none => return none
  | some t =>
    goTo ((← get).rest.drop t.size)
    return some t

/-- Passes the next token if it is the given character. -/
def accept (c : Char) : Read Bool := do
  if (← peek) == some (.plain c) then
    discard next
    return true
  else return false

/-- At most `n` characters of a kind. -/
def nextWhile (test : Char → Bool) : (n : Nat) → Read (List Char)
  | 0 => return []
  | n + 1 => do
    match ← peek with
    | some (.plain c) =>
      if test c then
        discard next
        return c :: (← nextWhile test n)
      else return []
    | _ => return []

/-- The text up to a closing mark, which is passed as well. -/
def nextUntil (mark : Char) (missing unterminated : Cause) :
    (fuel : Nat) → (taken : String) → Read String
  | 0, _ => refuse unterminated 0
  | fuel + 1, taken => do
    match ← next with
    | none => if taken.isEmpty then refuse missing 0 else refuse unterminated taken.length
    | some t =>
      if t == .plain mark then
        if taken.isEmpty then refuse missing 1 else return taken
      else nextUntil mark missing unterminated fuel (taken ++ t.text)

def isOctal (c : Char) : Bool := '0' ≤ c && c ≤ '7'

def isHex (c : Char) : Bool := (Text.hexValue? c).isSome

/-- The number that digits of a base denote. -/
def numberOf (base : Nat) (cs : List Char) : Nat :=
  cs.foldl (fun n c => n * base + (Text.hexValue? c).getD 0) 0

end ApiRouter.Pattern.Reader

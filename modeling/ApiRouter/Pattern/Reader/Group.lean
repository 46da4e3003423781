import ApiRouter.Pattern.Reader.Escape
import ApiRouter.Text.Identifier
import ApiRouter.Text.Numeral

set_option autoImplicit false

/-! # Repetition marks and the heads of groups

The bounds of a repetition, and what stands between the opening parenthesis of a group and its
content: a name, flags, or the group that a condition asks about. -/

namespace ApiRouter.Pattern.Reader

/-! ## Repetition -/

/-- Counts of repetitions from this on are refused. -/
def repeatLimit : Nat := 4294967295

/-- The bounds of a repetition mark; `none` when a brace turns out to stand for itself. -/
def repeatBounds (mark : Char) : Read (Option (Nat × Option Nat)) := do
  if mark == '?' then return some (0, some 1)
  if mark == '*' then return some (0, none)
  if mark == '+' then return some (1, none)
  if (← peek) == some (.plain '\x7d') then return none
  let here ← place
  let start := (← get).rest
  let low ← nextWhile Text.isAsciiDigit start.length
  let high ← if ← accept ',' then nextWhile Text.isAsciiDigit start.length else pure low
  if !(← accept '\x7d') then
    goTo start
    return none
  let least := numberOf 10 low
  let most := numberOf 10 high
  if !low.isEmpty && least ≥ repeatLimit then throw .hugeRepeat
  if high.isEmpty then return some (least, none)
  if most ≥ repeatLimit then throw .hugeRepeat
  if most < least then refuseAt .reversedRepeat here
  return some (least, some most)

/-! ## Groups -/

/-- A group name up to its closing mark. -/
def groupName (mark : Char) : Read String := do
  nextUntil mark .missingGroupName (.unterminatedGroupName mark) ((← get).rest.length + 1) ""

/-- Opens a group and gives its number. -/
def openGroup (name : Option String) : Read Nat := do
  let s ← get
  let group := s.groups.size + 1
  match name with
  | none => set { s with groups := s.groups.push none }
  | some n =>
    match s.names.lookup n with
    | some earlier =>
      set { s with groups := s.groups.push none }
      refuse (.redefinedGroup n group earlier) (n.length + 1)
    | none => set { s with groups := s.groups.push none, names := (n, group) :: s.names }
  return group

/-- Closes a group, whose width is then known. -/
def closeGroup (group : Nat) (body : Node) : Read Unit :=
  modify fun s => { s with groups := s.groups.setIfInBounds (group - 1) (some body.width) }

/-- The letters that turn flags on, up to a mark that ends them. -/
def flagsOn : (fuel : Nat) → Token → Flags → Read (Token × Flags)
  | 0, _, _ => refuse .missingFlagsEnd 0
  | fuel + 1, t, taken => do
    match t with
    | .plain c =>
      match Flags.ofLetter? c with
      | some f =>
        if f.locale && !(← get).ofBytes then refuse .localeFlag 0
        if f.unicode && (← get).ofBytes then refuse .unicodeFlag 0
        let all := taken.union f
        if f.choosesScript && all.contradict then refuse .incompatibleFlags 0
        match ← next with
        | none => refuse .missingFlagsEnd 0
        | some u =>
          if u == .plain ')' || u == .plain '-' || u == .plain ':' then return (u, all)
          match u with
          | .plain d =>
            if (Flags.ofLetter? d).isSome then flagsOn fuel u all
            else if Text.isLetter d then refuse .unknownFlag 1
            else refuse .missingFlagsEnd 1
          | .escape _ => refuse .missingFlagsEnd 2
      | none => refuse .unknownFlag 1
    | .escape _ => refuse .unknownFlag 2

/-- The letters that turn flags off, up to the colon. -/
def flagsOff : (fuel : Nat) → Token → Flags → Read Flags
  | 0, _, _ => refuse .missingFlagsColon 0
  | fuel + 1, t, taken => do
    match t with
    | .plain c =>
      match Flags.ofLetter? c with
      | some f =>
        if f.choosesScript then refuse .typeFlagOff 0
        let all := taken.union f
        match ← next with
        | none => refuse .missingFlagsColon 0
        | some u =>
          if u == .plain ':' then return all
          match u with
          | .plain d =>
            if (Flags.ofLetter? d).isSome then flagsOff fuel u all
            else if Text.isLetter d then refuse .unknownFlag 1
            else refuse .missingFlagsColon 1
          | .escape _ => refuse .missingFlagsColon 2
      | none => refuse .unknownFlag 1
    | .escape _ => refuse .unknownFlag 2

/-- The flags of a group head that starts with `t`: for the whole expression (`none`), or for the
group. -/
def groupFlags (t : Token) : Read (Option (Flags × Flags)) := do
  let fuel := (← get).rest.length + 1
  let (ended, on) ← if t == .plain '-' then pure (t, Flags.none) else flagsOn fuel t Flags.none
  if ended == .plain ')' then
    modify fun s => { s with flags := s.flags.union on }
    return none
  if on.template then refuse .globalFlagOn 1
  if ended == .plain ':' then return some (on, Flags.none)
  match ← next with
  | none => refuse .missingFlag 0
  | some u =>
    match u with
    | .plain d =>
      if (Flags.ofLetter? d).isNone then
        if Text.isLetter d then refuse .unknownFlag 1
        else refuse .missingFlag 1
    | .escape _ => refuse .missingFlag 2
    let off ← flagsOff fuel u Flags.none
    if off.template then refuse .globalFlagOff 1
    if on.inter off != Flags.none then refuse .flagOnAndOff 1
    return some (on, off)

/-- Passes a comment up to its closing parenthesis; `start` is the place of the opening one. -/
def skipComment (start : Nat) : (fuel : Nat) → Read Unit
  | 0 => refuseAt .unterminatedComment start
  | fuel + 1 => do
    match ← next with
    | none => refuseAt .unterminatedComment start
    | some t => if t == .plain ')' then return () else skipComment start fuel

/-- Passes a comment of the verbose form, which ends with its line. -/
def skipLine : (fuel : Nat) → Read Unit
  | 0 => return ()
  | fuel + 1 => do
    match ← next with
    | none => return ()
    | some t => if t == .plain '\n' then return () else skipLine fuel

/-- Group numbers from this on are refused. -/
def groupLimit : Nat := 1073741823

/-- The group that a condition asks for, by name or by number. -/
def conditionGroup : Read Nat := do
  let name ← groupName ')'
  if Text.isIdentifier name then
    match (← get).names.lookup name with
    | some group => return group
    | none => refuse (.unknownGroupName name) (name.length + 1)
  else
    match Text.readInt? name with
    | some (.ofNat 0) => refuse .badGroupNumber (name.length + 1)
    | some (.ofNat group) =>
      if group ≥ groupLimit then refuse (.invalidGroupReference group) (name.length + 1)
      let start := (← place) - (name.length + 1)
      modify fun s =>
        if (s.conditions.lookup group).isSome then s
        else { s with conditions := s.conditions ++ [(group, start)] }
      return group
    | _ => refuse (.badGroupName name) (name.length + 1)

/-- Requires the parenthesis that closes the group opened at `start`. -/
def close (start : Nat) : Read Unit := do
  if !(← accept ')') then refuseAt .unterminatedGroup start

end ApiRouter.Pattern.Reader

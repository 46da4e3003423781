import ApiRouter.Text.Digit
import ApiRouter.Value

set_option autoImplicit false

/-! # Timestamps

A timestamp is a day, which may be followed by a time of day and by the zone of its clock. The parts
need not name a day or a time that there is. -/

namespace ApiRouter.Yaml

/-- A time of day as it is written; the zone is given in seconds. -/
structure TimeText where
  hour : Nat
  minute : Nat
  second : Nat
  fraction : List Char
  zone : Option Int
  deriving DecidableEq, Repr

/-- A timestamp as it is written. -/
structure Timestamp where
  year : Nat
  month : Nat
  day : Nat
  /-- Whether month and day have two digits each. -/
  padded : Bool
  time : Option TimeText
  deriving DecidableEq, Repr

namespace Timestamp

/-! ## Parts -/

/-- A row of digits, at least `least` and at most `most` of them, and what follows. -/
def readRow? (least most : Nat) (cs : List Char) : Option (Nat × List Char) :=
  let row := (cs.take most).takeWhile Text.isAsciiDigit
  if least ≤ row.length then some (Text.decimalNumber row, cs.drop row.length) else none

/-- What follows a character. -/
def after? (c : Char) : List Char → Option (List Char)
  | d :: rest => if d == c then some rest else none
  | [] => none

/-- What remains after blanks. -/
def dropBlanks (cs : List Char) : List Char :=
  cs.dropWhile fun c => c == ' ' || c == '\t'

/-- What remains after the separator of day and time: a letter, or blanks. -/
def afterSeparator? : List Char → Option (List Char)
  | c :: rest =>
    if c == 'T' || c == 't' then some rest
    else if c == ' ' || c == '\t' then some (dropBlanks rest)
    else none
  | [] => none

/-- The zone that ends a timestamp: none, standard time, or hours and perhaps minutes ahead or
behind. -/
def readZone? (cs : List Char) : Option (Option Int) :=
  if cs.isEmpty then some none
  else
    match dropBlanks cs with
    | ['Z'] => some (some 0)
    | sign :: rest =>
      if sign != '+' && sign != '-' then none
      else do
        let (hours, rest) ← readRow? 1 2 rest
        let minutes ←
          match rest with
          | [] => some 0
          | rest => do
            let (minutes, rest) ← readRow? 2 2 (← after? ':' rest)
            if rest.isEmpty then some minutes else none
        let seconds : Int := (hours * 60 + minutes) * 60
        some (some (if sign == '-' then -seconds else seconds))
    | [] => none

/-- The time of day and the zone that end a timestamp. -/
def readTime? (cs : List Char) : Option TimeText := do
  let (hour, rest) ← readRow? 1 2 cs
  let (minute, rest) ← readRow? 2 2 (← after? ':' rest)
  let (second, rest) ← readRow? 2 2 (← after? ':' rest)
  let (fraction, rest) :=
    match rest with
    | '.' :: rest => (rest.takeWhile Text.isAsciiDigit, rest.dropWhile Text.isAsciiDigit)
    | rest => ([], rest)
  let zone ← readZone? rest
  some ⟨hour, minute, second, fraction, zone⟩

/-- The timestamp that is written by some characters. -/
def read? (cs : List Char) : Option Timestamp := do
  let (year, rest) ← readRow? 4 4 cs
  let monthStart ← after? '-' rest
  let (month, rest) ← readRow? 1 2 monthStart
  let dayStart ← after? '-' rest
  let (day, ending) ← readRow? 1 2 dayStart
  let padded := monthStart.length == rest.length + 2 && dayStart.length == ending.length + 2
  if ending.isEmpty then some ⟨year, month, day, padded, none⟩
  else do
    let time ← readTime? (← afterSeparator? ending)
    some ⟨year, month, day, padded, some time⟩

/-- Whether a timestamp is known by its form alone: a day alone must have all its digits. -/
def isPlain (t : Timestamp) : Bool :=
  t.padded || t.time.isSome

/-! ## Values -/

/-- The first six digits of a fraction as a number of millionths. -/
def microseconds (fraction : List Char) : Nat :=
  Text.decimalNumber ((fraction ++ List.replicate 6 '0').take 6)

/-- The day or moment of a timestamp, if there is one. -/
def value? (t : Timestamp) : Option Scalar := do
  let date ← Date.ofParts? t.year t.month t.day
  match t.time with
  | none => some (.date date)
  | some w =>
    let moment ← Moment.ofParts? date w.hour w.minute w.second (microseconds w.fraction) w.zone
    some (.moment moment)

end Timestamp

end ApiRouter.Yaml

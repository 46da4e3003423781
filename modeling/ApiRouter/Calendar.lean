set_option autoImplicit false

/-! # Dates and moments

A date is a day of the calendar. A moment adds the time of day, and perhaps how far the clock of its
zone is ahead of standard time. Moments with a zone are told apart by when they happen, those
without one by what the clock shows. -/

namespace ApiRouter

/-- `n` in decimal with at least `width` digits. -/
def padded (width n : Nat) : String :=
  let s := toString n
  String.ofList (List.replicate (width - s.length) '0') ++ s

/-! ## Dates -/

/-- A calendar date. -/
structure Date where
  year : Nat
  month : Nat
  day : Nat
  deriving DecidableEq, Repr

namespace Date

/-- Every fourth year is a leap year, except those of full centuries that four hundred does not
divide. -/
def isLeapYear (year : Nat) : Bool :=
  year % 4 == 0 && (year % 100 != 0 || year % 400 == 0)

/-- The number of days of a month; there are none beyond the twelfth. -/
def daysOf (year month : Nat) : Nat :=
  if month == 2 then (if isLeapYear year then 29 else 28)
  else if [4, 6, 9, 11].contains month then 30
  else if 1 ≤ month && month ≤ 12 then 31
  else 0

/-- The date with the given parts, if the calendar has it; years count from one. -/
def ofParts? (year month day : Nat) : Option Date :=
  if 1 ≤ year && 1 ≤ day && day ≤ daysOf year month then some ⟨year, month, day⟩ else none

/-- The number of days up to the date, counted from the first day of the first year. -/
def ordinal (d : Date) : Nat :=
  let y := d.year - 1
  let earlier := (List.range (d.month - 1)).map fun m => daysOf d.year (m + 1)
  365 * y + y / 4 - y / 100 + y / 400 + earlier.foldl (· + ·) 0 + d.day

/-- A date as year, month and day. -/
def text (d : Date) : String :=
  padded 4 d.year ++ "-" ++ padded 2 d.month ++ "-" ++ padded 2 d.day

/-- A date as a message quotes it. -/
def quoted (d : Date) : String :=
  "datetime.date(" ++ toString d.year ++ ", " ++ toString d.month ++ ", " ++ toString d.day ++ ")"

end Date

/-! ## Moments -/

/-- A date with a time of day; `offset` is the number of seconds that the zone is ahead. -/
structure Moment where
  date : Date
  hour : Nat
  minute : Nat
  second : Nat
  microsecond : Nat
  offset : Option Int
  deriving DecidableEq, Repr

namespace Moment

/-- The moment with the given parts, if there is one: the zone is less than a day away. -/
def ofParts? (date : Date) (hour minute second microsecond : Nat) (offset : Option Int) :
    Option Moment :=
  let near := offset.all fun s => s.natAbs < 86400
  if hour < 24 && minute < 60 && second < 60 && near then
    some ⟨date, hour, minute, second, microsecond, offset⟩
  else none

/-- What the clock shows, in microseconds from the first day of the first year on. -/
def clock (m : Moment) : Nat :=
  (((m.date.ordinal * 24 + m.hour) * 60 + m.minute) * 60 + m.second) * 1000000 + m.microsecond

/-- When the moment happens, on a clock of standard time; without a zone the clock counts as one. -/
def instant (m : Moment) : Int :=
  m.clock - m.offset.getD 0 * 1000000

/-- Whether two moments are the same; one with a zone is never one without. -/
def same (a b : Moment) : Bool :=
  a.offset.isSome == b.offset.isSome && a.instant == b.instant

/-- Whether one moment is before another; there is no order between those with a zone and those
without. -/
def below? (a b : Moment) : Option Bool :=
  if a.offset.isSome == b.offset.isSome then some (a.instant < b.instant) else none

/-- How far a zone is ahead, in hours and minutes. -/
def offsetText (seconds : Int) : String :=
  let n := seconds.natAbs
  (if seconds < 0 then "-" else "+") ++ padded 2 (n / 3600) ++ ":" ++ padded 2 (n / 60 % 60)

/-- A moment with a separator between day and time. -/
def textWith (separator : String) (m : Moment) : String :=
  m.date.text ++ separator ++ padded 2 m.hour ++ ":" ++ padded 2 m.minute ++ ":" ++
    padded 2 m.second ++ (if m.microsecond == 0 then "" else "." ++ padded 6 m.microsecond) ++
    (m.offset.map offsetText).getD ""

/-- A moment as it stands on its own. -/
def text (m : Moment) : String := m.textWith " "

/-- A zone as a message quotes it: a number of days and of seconds in the day. -/
def quotedZone (seconds : Int) : String :=
  if seconds == 0 then "datetime.timezone.utc"
  else
    let days := seconds.fdiv 86400
    let rest := seconds.fmod 86400
    let parts := (if days == 0 then [] else ["days=" ++ toString days]) ++
      (if rest == 0 then [] else ["seconds=" ++ toString rest])
    "datetime.timezone(datetime.timedelta(" ++ String.intercalate ", " parts ++ "))"

/-- A moment as a message quotes it: seconds and their parts stand only as far as they are not
zero. -/
def quoted (m : Moment) : String :=
  let small :=
    if m.microsecond != 0 then [m.second, m.microsecond]
    else if m.second != 0 then [m.second]
    else []
  let numbers := [m.date.year, m.date.month, m.date.day, m.hour, m.minute] ++ small
  let zone := (m.offset.map fun s => "tzinfo=" ++ quotedZone s).toList
  "datetime.datetime(" ++ String.intercalate ", " (numbers.map toString ++ zone) ++ ")"

end Moment

end ApiRouter

/-
# Dates and times

A day of the calendar, alone or with a time of day and the offset from
universal time that the time is given in. Years go from 1 to 9999.

Key definitions: `Moment`, `Moment.fault?`, `Moment.written`,
`Moment.shown`.
-/

namespace Turnstile

/-- A time of day. -/
structure Clock where
  hour : Nat
  minute : Nat
  second : Nat
  micro : Nat
  /-- Minutes ahead of universal time, if they are known. -/
  offset : Option Int
deriving DecidableEq, Repr

/-- A date, or a date with a time. -/
structure Moment where
  year : Nat
  month : Nat
  day : Nat
  clock : Option Clock
deriving DecidableEq, Repr

namespace Moment

/-- Whether a year has a day more. -/
def isLeap (year : Nat) : Bool := year % 4 == 0 && (year % 100 != 0 || year % 400 == 0)

/-- The number of days of a month. -/
def daysOf (year month : Nat) : Nat :=
  if month = 2 then (if isLeap year then 29 else 28)
  else if month ∈ [4, 6, 9, 11] then 30
  else 31

/-- The least offset, in minutes, that is no offset any more. -/
def dayMinutes : Nat := 1440

/-- A number of at least the given number of digits. -/
def padded (width n : Nat) : String :=
  let ds := Nat.toDigits 10 n
  String.ofList (List.replicate (width - ds.length) '0' ++ ds)

/-- A span of minutes as it is described: whole days, of which there may be fewer
than none, and seconds. -/
def spanText (minutes : Int) : String :=
  let days := Int.fdiv minutes dayMinutes
  let seconds := Int.fmod minutes dayMinutes * 60
  let parts :=
    (if days = 0 then [] else ["days=" ++ toString days]) ++
      (if seconds = 0 then [] else ["seconds=" ++ toString seconds])
  "datetime.timedelta(" ++ (if parts.isEmpty then "0" else ", ".intercalate parts) ++ ")"

/-- What is wrong with a time of day. -/
def clockFault? (c : Clock) : Option String :=
  if 23 < c.hour then some "hour must be in 0..23"
  else if 59 < c.minute then some "minute must be in 0..59"
  else if 59 < c.second then some "second must be in 0..59"
  else none

/-- What is wrong with an offset. -/
def offsetFault? (minutes : Int) : Option String :=
  if minutes.natAbs < dayMinutes then none
  else
    some ("offset must be a timedelta strictly between -timedelta(hours=24) and " ++
      "timedelta(hours=24), not " ++ spanText minutes ++ ".")

/-- What is wrong with a moment, in words. -/
def fault? (m : Moment) : Option String :=
  match (m.clock.bind Clock.offset).bind offsetFault? with
  | some fault => some fault
  | none =>
    if m.year = 0 then some "year 0 is out of range"
    else if m.month = 0 ∨ 12 < m.month then some "month must be in 1..12"
    else if m.day = 0 ∨ daysOf m.year m.month < m.day then some "day is out of range for month"
    else m.clock.bind clockFault?

/-- The name of a moment's type. -/
def typeName (m : Moment) : String := if m.clock.isSome then "datetime" else "date"

/-- An offset as it is written. -/
def offsetText (minutes : Int) : String :=
  (if minutes < 0 then "-" else "+") ++ padded 2 (minutes.natAbs / 60) ++ ":" ++
    padded 2 (minutes.natAbs % 60)

/-- A time of day as it is written. -/
def clockText (c : Clock) : String :=
  padded 2 c.hour ++ ":" ++ padded 2 c.minute ++ ":" ++ padded 2 c.second ++
    (if c.micro = 0 then "" else "." ++ padded 6 c.micro) ++
    (c.offset.map offsetText).getD ""

/-- A moment as it is written. -/
def written (m : Moment) : String :=
  padded 4 m.year ++ "-" ++ padded 2 m.month ++ "-" ++ padded 2 m.day ++
    (match m.clock with
      | some c => " " ++ clockText c
      | none => "")

/-- An offset as it is described. -/
def zoneText (minutes : Int) : String :=
  if minutes = 0 then "datetime.timezone.utc"
  else "datetime.timezone(" ++ spanText minutes ++ ")"

/-- The parts of a time of day as they are described: seconds and what is finer
are left out where they are zero. -/
def clockParts (c : Clock) : List String :=
  [toString c.hour, toString c.minute] ++
    (if c.micro != 0 then [toString c.second, toString c.micro]
      else if c.second != 0 then [toString c.second] else []) ++
    (c.offset.map fun o => "tzinfo=" ++ zoneText o).toList

/-- A moment as it is described in messages. -/
def shown (m : Moment) : String :=
  let day := [toString m.year, toString m.month, toString m.day]
  "datetime." ++ m.typeName ++ "(" ++
    ", ".intercalate (day ++ (m.clock.map clockParts).getD []) ++ ")"

end Moment

end Turnstile

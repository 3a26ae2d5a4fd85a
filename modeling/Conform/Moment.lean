/-!
# Dates and Times

Calendar dates, with a time of day and an offset from universal time where they are given,
and the three texts they have.
-/

namespace Conform

/-- A time of day, down to the microsecond. -/
structure TimeOfDay where
  /-- The hour, from 0. -/
  hour : Nat
  /-- The minute. -/
  minute : Nat
  /-- The second. -/
  second : Nat
  /-- The microsecond. -/
  micro : Nat
  /-- The offset from universal time in minutes, where one is given. -/
  offset : Option Int
  deriving DecidableEq, Repr

/-- A date, or a date with a time of day. -/
structure Moment where
  /-- The year, from 1. -/
  year : Nat
  /-- The month, from 1. -/
  month : Nat
  /-- The day of the month, from 1. -/
  day : Nat
  /-- The time of day, absent for a plain date. -/
  time : Option TimeOfDay
  deriving DecidableEq, Repr

namespace Moment

/-- Whether a year is a leap year. -/
def isLeap (year : Nat) : Bool := year % 4 == 0 && (year % 100 != 0 || year % 400 == 0)

/-- The number of days of a month. -/
def daysIn (year month : Nat) : Nat :=
  if month = 2 then (if isLeap year then 29 else 28)
  else if month = 4 ∨ month = 6 ∨ month = 9 ∨ month = 11 then 30
  else 31

/-- Whether the time of day is one a clock shows, with an offset of less than a day. -/
def validTime (t : TimeOfDay) : Bool :=
  t.hour < 24 && t.minute < 60 && t.second < 60 && t.micro < 1000000 &&
    t.offset.all fun minutes => -1440 < minutes && minutes < 1440

/-- Whether the calendar has the date and the clock the time. -/
def isValid (m : Moment) : Bool :=
  1 ≤ m.year && m.year ≤ 9999 && 1 ≤ m.month && m.month ≤ 12 && 1 ≤ m.day &&
    m.day ≤ daysIn m.year m.month && m.time.all validTime

/-- The number of days from the first day of year 1 up to the given one. -/
def dayNumber (m : Moment) : Nat :=
  let before := m.year - 1
  let months := (List.range (m.month - 1)).map fun i => daysIn m.year (i + 1)
  before * 365 + before / 4 - before / 100 + before / 400 + months.foldl (· + ·) 0 + (m.day - 1)

/-- The instant in microseconds, on the clock of the moment, or on that of universal time
where an offset is given. -/
def instant (m : Moment) : Int :=
  let day : Int := m.dayNumber * 86400000000
  match m.time with
  | none => day
  | some t =>
    day + ((t.hour * 3600 + t.minute * 60 + t.second) * 1000000 + t.micro : Nat) -
      t.offset.getD 0 * 60000000

/-- Whether two moments can be told earlier and later: both are dates, both have a time
without an offset, or both have one with an offset. -/
def comparable (m n : Moment) : Bool :=
  match m.time, n.time with
  | none, none => true
  | some t, some u => t.offset.isSome == u.offset.isSome
  | _, _ => false

/-- A natural number filled with zeros up to a width. -/
def padded (width n : Nat) : String :=
  let digits := Nat.toDigits 10 n
  String.ofList (List.replicate (width - digits.length) '0' ++ digits)

/-- The offset from universal time as signed hours and minutes. -/
def offsetText (minutes : Int) : String :=
  let size := minutes.natAbs
  (if minutes < 0 then "-" else "+") ++ padded 2 (size / 60) ++ ":" ++ padded 2 (size % 60)

/-- A time of day as text; microseconds are shown unless they are zero. -/
def timeText (t : TimeOfDay) : String :=
  padded 2 t.hour ++ ":" ++ padded 2 t.minute ++ ":" ++ padded 2 t.second ++
    (if t.micro = 0 then "" else "." ++ padded 6 t.micro) ++ (t.offset.map offsetText).getD ""

/-- The date, and the time after a separator. -/
def joined (separator : String) (m : Moment) : String :=
  let date := padded 4 m.year ++ "-" ++ padded 2 m.month ++ "-" ++ padded 2 m.day
  match m.time with
  | none => date
  | some t => date ++ separator ++ timeText t

/-- The text of a moment, with a space before the time. -/
def render (m : Moment) : String := joined " " m

/-- The zone of an offset as the expression that makes it; a negative offset counts from
the day before. -/
def zoneExpression (minutes : Int) : String :=
  if minutes = 0 then "datetime.timezone.utc"
  else
    let inner :=
      if minutes < 0 then "days=-1, seconds=" ++ toString (86400 + minutes * 60)
      else "seconds=" ++ toString (minutes * 60)
    "datetime.timezone(datetime.timedelta(" ++ inner ++ "))"

/-- The expression that makes the moment; trailing zero microseconds and seconds are left
out. -/
def expression (m : Moment) : String :=
  let date := [m.year, m.month, m.day]
  match m.time with
  | none => "datetime.date(" ++ ", ".intercalate (date.map toString) ++ ")"
  | some t =>
    let clock :=
      if t.micro ≠ 0 then [t.hour, t.minute, t.second, t.micro]
      else if t.second ≠ 0 then [t.hour, t.minute, t.second]
      else [t.hour, t.minute]
    let zone := t.offset.map fun minutes => ", tzinfo=" ++ zoneExpression minutes
    "datetime.datetime(" ++ ", ".intercalate ((date ++ clock).map toString) ++ zone.getD "" ++ ")"

end Moment

end Conform

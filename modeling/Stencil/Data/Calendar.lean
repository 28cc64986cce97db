import Stencil.Text.Hex

/-!
# Dates and moments

Days of the calendar and times of day, with an optional distance from universal time, and the form that
they are written in.
-/

namespace Stencil.Data

/-- A day. -/
structure Date where
  /-- The year. -/
  year : Nat
  /-- The month, from one. -/
  month : Nat
  /-- The day of the month, from one. -/
  day : Nat
deriving DecidableEq, Repr

/-- A time on a day. -/
structure Moment where
  /-- The day. -/
  date : Date
  /-- The hour. -/
  hour : Nat
  /-- The minute. -/
  minute : Nat
  /-- The second. -/
  second : Nat
  /-- The millionths of a second. -/
  micro : Nat
  /-- The minutes by which the clock is ahead of universal time, when that is known. -/
  ahead : Option Int
deriving DecidableEq, Repr

/-- Why numbers are no day and no time. -/
inductive CalendarFault
  /-- A year of zero. -/
  | year (n : Nat)
  /-- No such month. -/
  | month
  /-- No such day in the month. -/
  | day
  /-- No such hour. -/
  | hour
  /-- No such minute. -/
  | minute
  /-- No such second. -/
  | second
  /-- A clock that is a day or more ahead or behind, in minutes. -/
  | ahead (span : Int)
deriving DecidableEq, Repr

/-- A number in decimal. -/
def decimal (n : Nat) : String :=
  String.ofList (Text.digits 10 n)

/-- A span of minutes, as whole days and the seconds left over. -/
def spanForm (minutes : Int) : String :=
  let days := minutes.fdiv 1440
  let seconds := (minutes.fmod 1440) * 60
  let parts := (if days = 0 then [] else ["days=" ++ toString days]) ++
    (if seconds = 0 then [] else ["seconds=" ++ toString seconds])
  "datetime.timedelta(" ++ (if parts.isEmpty then "0" else ", ".intercalate parts) ++ ")"

/-- The wording of a calendar fault. -/
def CalendarFault.message : CalendarFault → String
  | .year n => "year " ++ decimal n ++ " is out of range"
  | .month => "month must be in 1..12"
  | .day => "day is out of range for month"
  | .hour => "hour must be in 0..23"
  | .minute => "minute must be in 0..59"
  | .second => "second must be in 0..59"
  | .ahead span =>
    "offset must be a timedelta strictly between -timedelta(hours=24) and timedelta(hours=24), not " ++
      spanForm span ++ "."

/-- Whether a year has a leap day. -/
def isLeapYear (year : Nat) : Bool :=
  (year % 4 = 0 && year % 100 ≠ 0) || year % 400 = 0

/-- The number of days of a month. -/
def daysInMonth (year month : Nat) : Nat :=
  if month = 2 then (if isLeapYear year then 29 else 28)
  else if month = 4 ∨ month = 6 ∨ month = 9 ∨ month = 11 then 30
  else 31

/-- The day with the given numbers. -/
def Date.of (year month day : Nat) : Except CalendarFault Date :=
  if year = 0 then .error (.year year)
  else if month < 1 ∨ 12 < month then .error .month
  else if day < 1 ∨ daysInMonth year month < day then .error .day
  else .ok ⟨year, month, day⟩

/-- The moment with the given numbers; the distance from universal time is looked at first. -/
def Moment.of (year month day hour minute second micro : Nat) (ahead : Option Int) :
    Except CalendarFault Moment :=
  match ahead with
  | some minutes =>
    if minutes ≤ -1440 ∨ 1440 ≤ minutes then .error (.ahead minutes)
    else onDay (some minutes)
  | none => onDay none
where
  /-- The moment once its distance from universal time is known to be possible. -/
  onDay (ahead : Option Int) : Except CalendarFault Moment := do
    let date ← Date.of year month day
    if 23 < hour then .error .hour
    else if 59 < minute then .error .minute
    else if 59 < second then .error .second
    else .ok ⟨date, hour, minute, second, micro, ahead⟩

/-- The written form of a day. -/
def Date.form (d : Date) : String :=
  "datetime.date(" ++ ", ".intercalate ([d.year, d.month, d.day].map decimal) ++ ")"

/-- The written form of a moment; seconds and their parts are left out when they are zero. -/
def Moment.form (m : Moment) : String :=
  let small := if m.micro ≠ 0 then [m.second, m.micro] else if m.second ≠ 0 then [m.second] else []
  let numbers := ([m.date.year, m.date.month, m.date.day, m.hour, m.minute] ++ small).map decimal
  let zone := match m.ahead with
    | none => []
    | some minutes =>
      if minutes = 0 then ["tzinfo=datetime.timezone.utc"]
      else ["tzinfo=datetime.timezone(" ++ spanForm minutes ++ ")"]
  "datetime.datetime(" ++ ", ".intercalate (numbers ++ zone) ++ ")"

end Stencil.Data

/-! Calendar dates and points in time as they occur in documents. -/
namespace Conformance

structure Date where
  year : Nat
  month : Nat
  day : Nat
  deriving DecidableEq, Repr

/-- A date with a time of day; `offset` counts the seconds by which local time is ahead of
universal time, where that is known. -/
structure Moment where
  date : Date
  hour : Nat
  minute : Nat
  second : Nat
  microsecond : Nat
  offset : Option Int
  deriving DecidableEq, Repr

def paddedNat (width n : Nat) : String :=
  let digits := toString n
  String.ofList (List.replicate (width - digits.length) '0') ++ digits

namespace Date

def isLeapYear (year : Nat) : Bool := year % 4 == 0 && (year % 100 != 0 || year % 400 == 0)

def daysInMonth (year month : Nat) : Nat :=
  if month = 2 then if isLeapYear year then 29 else 28
  else if month = 4 ∨ month = 6 ∨ month = 9 ∨ month = 11 then 30
  else 31

def fault? (d : Date) : Option String :=
  if d.year = 0 then some "year 0 is out of range"
  else if d.month = 0 ∨ 12 < d.month then some "month must be in 1..12"
  else if d.day = 0 ∨ daysInMonth d.year d.month < d.day then some "day is out of range for month"
  else none

def plain (d : Date) : String :=
  paddedNat 4 d.year ++ "-" ++ paddedNat 2 d.month ++ "-" ++ paddedNat 2 d.day

def literal (d : Date) : String :=
  "datetime.date(" ++ ", ".intercalate (([d.year, d.month, d.day]).map toString) ++ ")"

end Date

namespace Moment

def spanLiteral (seconds : Int) : String :=
  let days := Int.fdiv seconds 86400
  let rest := Int.fmod seconds 86400
  let parts := (if days = 0 then [] else [s!"days={days}"])
    ++ (if rest = 0 then [] else [s!"seconds={rest}"])
  "datetime.timedelta(" ++ (if parts.isEmpty then "0" else ", ".intercalate parts) ++ ")"

def offsetFault (seconds : Int) : String :=
  "offset must be a timedelta strictly between -timedelta(hours=24) and timedelta(hours=24), not "
    ++ spanLiteral seconds ++ "."

def fault? (m : Moment) : Option String :=
  if let some seconds := m.offset.filter (86400 ≤ ·.natAbs) then some (offsetFault seconds)
  else if let some fault := m.date.fault? then some fault
  else if 23 < m.hour then some "hour must be in 0..23"
  else if 59 < m.minute then some "minute must be in 0..59"
  else if 59 < m.second then some "second must be in 0..59"
  else none

def offsetText (seconds : Int) : String :=
  let minutes := seconds.natAbs / 60
  (if seconds < 0 then "-" else "+") ++ paddedNat 2 (minutes / 60) ++ ":" ++ paddedNat 2 (minutes % 60)

def plain (m : Moment) : String :=
  m.date.plain ++ " " ++ paddedNat 2 m.hour ++ ":" ++ paddedNat 2 m.minute ++ ":"
    ++ paddedNat 2 m.second
    ++ (if m.microsecond = 0 then "" else "." ++ paddedNat 6 m.microsecond)
    ++ (m.offset.map offsetText).getD ""

def offsetLiteral (seconds : Int) : String :=
  if seconds = 0 then "datetime.timezone.utc"
  else "datetime.timezone(" ++ spanLiteral seconds ++ ")"

def literal (m : Moment) : String :=
  let tail :=
    if m.microsecond ≠ 0 then [m.second, m.microsecond]
    else if m.second ≠ 0 then [m.second] else []
  let numbers := [m.date.year, m.date.month, m.date.day, m.hour, m.minute] ++ tail
  "datetime.datetime(" ++ ", ".intercalate (numbers.map toString
    ++ (m.offset.map fun o => "tzinfo=" ++ offsetLiteral o).toList) ++ ")"

end Moment

end Conformance

/-
Dates and moments of the proleptic Gregorian calendar, from year 1 to year 9999. A moment may carry
an offset from universal time, in seconds and less than a day either way; moments with an offset are
the same when they denote the same instant.
-/

namespace EntityScaffold

namespace Calendar

inductive Fault
  | year (value : Nat)
  | month
  | day
  | hour
  | minute
  | second
  | offset (seconds : Int)
  deriving DecidableEq, Repr

/-- A span of time in whole days and the seconds of a day, as it is written in messages. -/
def spanText (seconds : Int) : String :=
  let days := Int.fdiv seconds 86400
  let rest := Int.fmod seconds 86400
  let parts := (if days = 0 then [] else ["days=" ++ toString days]) ++
    (if rest = 0 then [] else ["seconds=" ++ toString rest])
  "datetime.timedelta(" ++ (if parts.isEmpty then "0" else ", ".intercalate parts) ++ ")"

def Fault.message : Fault → String
  | .year value => "year " ++ toString value ++ " is out of range"
  | .month => "month must be in 1..12"
  | .day => "day is out of range for month"
  | .hour => "hour must be in 0..23"
  | .minute => "minute must be in 0..59"
  | .second => "second must be in 0..59"
  | .offset seconds =>
    "offset must be a timedelta strictly between -timedelta(hours=24) and timedelta(hours=24), not " ++
      spanText seconds ++ "."

def isLeap (year : Nat) : Bool :=
  year % 4 = 0 && (year % 100 ≠ 0 || year % 400 = 0)

def daysInMonth (year month : Nat) : Nat :=
  if month = 2 then (if isLeap year then 29 else 28)
  else if month = 4 || month = 6 || month = 9 || month = 11 then 30
  else 31

/-- A number with at least `width` decimal digits. -/
def padded (width value : Nat) : String :=
  let digits := Nat.toDigits 10 value
  String.ofList (List.replicate (width - digits.length) '0' ++ digits)

end Calendar

structure Date where
  year : Nat
  month : Nat
  day : Nat
  deriving DecidableEq, Repr

namespace Date

def make (year month day : Nat) : Except Calendar.Fault Date :=
  if year = 0 || 9999 < year then .error (.year year)
  else if month = 0 || 12 < month then .error .month
  else if day = 0 || Calendar.daysInMonth year month < day then .error .day
  else .ok ⟨year, month, day⟩

def text (date : Date) : String :=
  Calendar.padded 4 date.year ++ "-" ++ Calendar.padded 2 date.month ++ "-" ++
    Calendar.padded 2 date.day

def quoted (date : Date) : String :=
  "datetime.date(" ++
    ", ".intercalate [toString date.year, toString date.month, toString date.day] ++
    ")"

/-- The number of days before a date, counted from the first day of year 1. -/
def ordinal (date : Date) : Nat :=
  let before := date.year - 1
  let months := (List.range (date.month - 1)).foldl
    (fun days index => days + Calendar.daysInMonth date.year (index + 1)) 0
  before * 365 + before / 4 - before / 100 + before / 400 + months + (date.day - 1)

end Date

structure Moment where
  date : Date
  hour : Nat
  minute : Nat
  second : Nat
  microsecond : Nat
  offset : Option Int
  deriving DecidableEq, Repr

namespace Moment

/-- The offset is judged before the date, and the date before the time of day. -/
def make (year month day hour minute second microsecond : Nat) (offset : Option Int) :
    Except Calendar.Fault Moment := do
  match offset with
  | some seconds => if 86400 ≤ seconds.natAbs then throw (.offset seconds)
  | none => pure ()
  let date ← Date.make year month day
  if 23 < hour then throw .hour
  if 59 < minute then throw .minute
  if 59 < second then throw .second
  return ⟨date, hour, minute, second, microsecond, offset⟩

def offsetText (seconds : Int) : String :=
  let size := seconds.natAbs
  (if seconds < 0 then "-" else "+") ++ Calendar.padded 2 (size / 3600) ++ ":" ++
    Calendar.padded 2 (size / 60 % 60) ++
    (if size % 60 = 0 then "" else ":" ++ Calendar.padded 2 (size % 60))

def text (moment : Moment) : String :=
  moment.date.text ++ " " ++ Calendar.padded 2 moment.hour ++ ":" ++
    Calendar.padded 2 moment.minute ++ ":" ++ Calendar.padded 2 moment.second ++
    (if moment.microsecond = 0 then "" else "." ++ Calendar.padded 6 moment.microsecond) ++
    (match moment.offset with
      | none => ""
      | some seconds => offsetText seconds)

def quoted (moment : Moment) : String :=
  let date := moment.date
  let clock := [moment.hour, moment.minute] ++
    (if moment.microsecond ≠ 0 then [moment.second, moment.microsecond]
      else if moment.second ≠ 0 then [moment.second] else [])
  let numbers := [date.year, date.month, date.day] ++ clock
  let zone := match moment.offset with
    | none => []
    | some 0 => ["tzinfo=datetime.timezone.utc"]
    | some seconds => ["tzinfo=datetime.timezone(" ++ Calendar.spanText seconds ++ ")"]
  "datetime.datetime(" ++ ", ".intercalate (numbers.map toString ++ zone) ++ ")"

/-- Microseconds from the start of year 1, by the clock of the moment itself. -/
def clock (moment : Moment) : Int :=
  (((moment.date.ordinal * 24 + moment.hour) * 60 + moment.minute) * 60 + moment.second) * 1000000 +
    moment.microsecond

/-- Two moments without offset agree by their clocks, two with offset by their instants. -/
def same (left right : Moment) : Bool :=
  match left.offset, right.offset with
  | none, none => left.clock == right.clock
  | some leftOffset, some rightOffset =>
    left.clock - leftOffset * 1000000 == right.clock - rightOffset * 1000000
  | _, _ => false

end Moment

end EntityScaffold

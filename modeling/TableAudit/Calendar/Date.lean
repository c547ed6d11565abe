import TableAudit.Decimal.Layout

/-!
# Calendar dates

Dates of the proleptic Gregorian calendar, their day numbers counted from 1970-01-01, and their
canonical text.
-/

namespace TableAudit.Calendar

structure Date where
  year : Int
  month : Nat
  day : Nat
deriving DecidableEq, Repr

def isLeap (year : Int) : Bool :=
  year % 4 == 0 && (year % 100 != 0 || year % 400 == 0)

def daysInMonth (year : Int) (month : Nat) : Nat :=
  match month with
  | 2 => if isLeap year then 29 else 28
  | 4 | 6 | 9 | 11 => 30
  | _ => 31

namespace Date

/-- The first and the last year that dates may have. -/
def firstYear : Int := -262143
def lastYear : Int := 262142

/-- Whether the calendar has this day. -/
def isValid (d : Date) : Bool :=
  firstYear ≤ d.year && d.year ≤ lastYear && 1 ≤ d.month && d.month ≤ 12 &&
    1 ≤ d.day && d.day ≤ daysInMonth d.year d.month

/-- Days since 1970-01-01. Years are counted from March, so that the leap day comes last. -/
def toDays (d : Date) : Int :=
  let year := if d.month ≤ 2 then d.year - 1 else d.year
  let month : Int := if d.month ≤ 2 then d.month + 9 else (d.month : Int) - 3
  let days := 365 * year + Int.fdiv year 4 - Int.fdiv year 100 + Int.fdiv year 400
  days + (153 * month + 2) / 5 + d.day - 1 - 719468

def ofDays (n : Int) : Date :=
  let n := n + 719468
  let era := Int.fdiv n 146097
  let day := n - era * 146097
  let year := (day - day / 1460 + day / 36524 - day / 146096) / 365
  let dayOfYear := day - (365 * year + year / 4 - year / 100)
  let month := (5 * dayOfYear + 2) / 153
  let dayOfMonth := dayOfYear - (153 * month + 2) / 5 + 1
  let civilMonth := if month < 10 then month + 3 else month - 9
  let civilYear := year + era * 400 + if civilMonth ≤ 2 then 1 else 0
  ⟨civilYear, civilMonth.toNat, dayOfMonth.toNat⟩

end Date

def padded (width n : Nat) : String :=
  let digits := Nat.toDigits 10 n
  String.ofList (List.replicate (width - digits.length) '0' ++ digits)

/-- A year in four digits; one outside 0 to 9999 carries its sign. -/
def yearText (year : Int) : String :=
  if 0 ≤ year && year ≤ 9999 then padded 4 year.toNat
  else (if year < 0 then "-" else "+") ++ padded 4 year.natAbs

def Date.text (d : Date) : String :=
  yearText d.year ++ "-" ++ padded 2 d.month ++ "-" ++ padded 2 d.day

structure Moment where
  date : Date
  hour : Nat
  minute : Nat
  second : Nat
deriving DecidableEq, Repr

def Moment.clockText (m : Moment) (between : String) : String :=
  padded 2 m.hour ++ between ++ padded 2 m.minute ++ between ++ padded 2 m.second

/-- `2024-06-01 10:30:00` -/
def Moment.text (m : Moment) : String := m.date.text ++ " " ++ m.clockText ":"

/-- A moment as part of a file name: `2024-06-01_10-30-00`. -/
def Moment.fileText (m : Moment) : String := m.date.text ++ "_" ++ m.clockText "-"

def millisecondsPerDay : Int := 86400000

/-- The moment of an instant given in milliseconds since 1970-01-01, to the second. -/
def Moment.ofInstant (ms : Int) : Moment :=
  let day := Int.fdiv ms millisecondsPerDay
  let seconds := (ms - day * millisecondsPerDay).toNat / 1000
  ⟨Date.ofDays day, seconds / 3600, seconds / 60 % 60, seconds % 60⟩

/-- The text of an instant given in milliseconds since 1970-01-01; a fraction of a second shows in
three digits. -/
def instantText (ms : Int) : String :=
  let fraction := (ms % 1000).toNat
  (Moment.ofInstant ms).text ++ if fraction = 0 then "" else "." ++ padded 3 fraction

end TableAudit.Calendar

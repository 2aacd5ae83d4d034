import DocMend.Number.Decimal
/-!
Dates of the Gregorian calendar, extended to all years, and the text of an instant.
-/

set_option autoImplicit false
set_option relaxedAutoImplicit false

namespace DocMend.Calendar

/-- A date. -/
structure Date where
  year : Int
  month : Nat
  day : Nat
deriving DecidableEq, Repr

/-- The time of a day in whole seconds. -/
structure Time where
  hour : Nat
  minute : Nat
  second : Nat
deriving DecidableEq, Repr

/-- Days in 400 years. -/
def daysInEra : Nat := 146097

/-- Days from the first of March of year zero to the first of January 1970. -/
def epochOffset : Nat := 719468

/-- The date of a day, counted from the first of January 1970. Years are taken to begin in March, so
that the leap day is the last one of its year, and to repeat every 400 years. -/
def dateOfDay (day : Int) : Date :=
  let shifted := day + epochOffset
  let era := shifted / daysInEra
  let dayOfEra := (shifted % daysInEra).toNat
  let yearOfEra :=
    (dayOfEra - dayOfEra / 1460 + dayOfEra / 36524 - dayOfEra / 146096) / 365
  let dayOfYear := dayOfEra - (365 * yearOfEra + yearOfEra / 4 - yearOfEra / 100)
  let marchMonth := (5 * dayOfYear + 2) / 153
  let dayOfMonth := dayOfYear - (153 * marchMonth + 2) / 5 + 1
  let month := if marchMonth < 10 then marchMonth + 3 else marchMonth - 9
  let year := (yearOfEra : Int) + era * 400
  ⟨if month ≤ 2 then year + 1 else year, month, dayOfMonth⟩

/-- Whether a year has a leap day. -/
def isLeap (year : Int) : Bool :=
  year % 4 == 0 && (year % 100 != 0 || year % 400 == 0)

/-- How many days a month has. -/
def daysInMonth (year : Int) (month : Nat) : Nat :=
  if month = 2 then if isLeap year then 29 else 28
  else if month = 4 ∨ month = 6 ∨ month = 9 ∨ month = 11 then 30
  else 31

/-- Whether a date stands in the calendar. -/
def Date.isValid (date : Date) : Bool :=
  1 ≤ date.month && date.month ≤ 12 && 1 ≤ date.day &&
    date.day ≤ daysInMonth date.year date.month

/-- The day of a date, counted from the first of January 1970. -/
def Date.toDay (date : Date) : Int :=
  let year := if date.month ≤ 2 then date.year - 1 else date.year
  let marchMonth := if date.month ≤ 2 then date.month + 9 else date.month - 3
  let dayOfYear := (153 * marchMonth + 2) / 5 + (date.day - 1)
  365 * year + year / 4 - year / 100 + year / 400 + dayOfYear - epochOffset

/-- The time of a second of a day. -/
def timeOfSecond (second : Nat) : Time :=
  ⟨second / 3600, second / 60 % 60, second % 60⟩

/-- A natural number in at least so many digits. -/
def padded (width n : Nat) : List Char :=
  let digits := Nat.toDigits 10 n
  List.replicate (width - digits.length) '0' ++ digits

/-- A year in four digits, or signed in six where four are not enough. -/
def yearText (year : Int) : List Char :=
  if 0 ≤ year ∧ year ≤ 9999 then padded 4 year.toNat
  else (if year < 0 then '-' else '+') :: padded 6 year.natAbs

/-- A date and a time of day, with `mark` between them. -/
def instantText (mark : Char) (date : Date) (time : Time) : List Char :=
  yearText date.year ++ ['-'] ++ padded 2 date.month ++ ['-'] ++ padded 2 date.day ++ [mark] ++
    padded 2 time.hour ++ [':'] ++ padded 2 time.minute ++ [':'] ++ padded 2 time.second

/-- The farthest instant from the first of January 1970, in milliseconds. -/
def farthest : Nat := 8640000000000000

/-- The instant that a number of milliseconds names: its fraction is dropped, and it must not be
too far away. -/
def instant? (milliseconds : Number) : Option Int :=
  match milliseconds with
  | .finite q =>
    if (farthest : Rat) < q ∨ q < -(farthest : Rat) then none else milliseconds.truncate?
  | .infinite _ => none

/-- The wording for an instant that is too far away. -/
def invalidTime : String := "Invalid time value"

/-- The date and the time of day at an instant, by coordinated universal time, in nineteen
characters; a year of six digits leaves no room for the seconds. -/
def buildDate (milliseconds : Int) : String :=
  let seconds := milliseconds / 1000
  let date := dateOfDay (seconds / 86400)
  let time := timeOfSecond (seconds % 86400).toNat
  String.ofList ((instantText ' ' date time).take 19 ++ " UTC".toList)

example : [-719528, -1, 0, 11016, 11017, 19782, 2932896].map (fun day => (dateOfDay day).toDay) =
    [-719528, -1, 0, 11016, 11017, 19782, 2932896] := by decide

example : buildDate 951827696789 = "2000-02-29 12:34:56 UTC" := by rfl

end DocMend.Calendar

import DocMend.Calendar
import DocMend.Proofs.Text.Word
import Mathlib.Data.String.Basic
import Mathlib.Tactic.IntervalCases
/-!
Build dates and the instants they show. The calendar is counted out year by year and month by month, and the
date of a day is the one that the count leads to. A text that shows a date and a time of day in fields of fixed
width can be read back, and such texts come in the order of the seconds that they name.
-/

set_option autoImplicit false
set_option relaxedAutoImplicit false

namespace DocMend.Calendar

section Count

/-- How many days a year has. -/
def daysInYear (year : Int) : Nat :=
  if isLeap year then 366 else 365

/-- The days of the years from year zero on that come before a year. -/
def daysOfYears : Nat → Nat
  | 0 => 0
  | year + 1 => daysOfYears year + daysInYear year

/-- The days of the first months of a year. -/
def daysOfMonths (year : Int) : Nat → Nat
  | 0 => 0
  | month + 1 => daysOfMonths year month + daysInMonth year (month + 1)

/-- The days from the first of January of year zero to a date. -/
def Date.count (date : Date) : Nat :=
  daysOfYears date.year.toNat + (daysOfMonths date.year (date.month - 1) + (date.day - 1))

/-- The seconds from midnight to a time of day. -/
def Time.count (time : Time) : Nat :=
  (time.hour * 60 + time.minute) * 60 + time.second

/-- Whether a clock shows a time of day. -/
def Time.isValid (time : Time) : Bool :=
  time.hour < 24 && time.minute < 60 && time.second < 60

/-- The day from which days are counted. -/
def epoch : Date := ⟨1970, 1, 1⟩

/-- The seconds from the beginning of 1970 to a time of day at a date, by the calendar and the clock. -/
def secondsAt (date : Date) (time : Time) : Int :=
  ((date.count : Int) - epoch.count) * 86400 + time.count

variable {date other : Date} {time later : Time} {year : Int}

private theorem isLeap_iff : isLeap year = true ↔ year % 4 = 0 ∧ (year % 100 ≠ 0 ∨ year % 400 = 0) := by
  simp [isLeap]

theorem Date.isValid_iff : date.isValid = true ↔
    1 ≤ date.month ∧ date.month ≤ 12 ∧ 1 ≤ date.day ∧ date.day ≤ daysInMonth date.year date.month := by
  simp [Date.isValid, and_assoc]

theorem Time.isValid_iff :
    time.isValid = true ↔ time.hour < 24 ∧ time.minute < 60 ∧ time.second < 60 := by
  simp [Time.isValid, and_assoc]

private theorem daysInMonth_le (year : Int) (month : Nat) : daysInMonth year month ≤ 31 := by
  simp only [daysInMonth]
  split_ifs <;> decide

/-- Every fourth year has a leap day, but of the full centuries only the first of four. -/
private theorem daysOfYears_succ (n : Nat) :
    daysOfYears (n + 1) = 365 * n + n / 4 - n / 100 + n / 400 + 366 := by
  induction n with
  | zero => rfl
  | succ n ih =>
    have leap : isLeap (n + 1 : Nat) = true ↔ _ := isLeap_iff
    have next : ∀ k, (n + 1) / k = n / k + if (n + 1) % k = 0 then 1 else 0 := fun k => by
      simp only [Nat.succ_div, Nat.dvd_iff_mod_eq_zero]
    rw [daysOfYears, ih, daysInYear, next 4, next 100, next 400]
    split
    · grind
    · grind

/-- From March on, any five months that come one after the other have 153 days. -/
private theorem daysOfMonths_pred (year : Int) {month : Nat} (first : 1 ≤ month) (last : month ≤ 12) :
    daysOfMonths year (month - 1) =
      if month ≤ 2 then 31 * (month - 1)
      else 31 + (if isLeap year then 29 else 28) + (153 * (month - 3) + 2) / 5 := by
  interval_cases month <;> simp [daysOfMonths, daysInMonth]

private theorem daysOfMonths_twelve (year : Int) : daysOfMonths year 12 = daysInYear year := by
  simp only [daysOfMonths, daysInMonth, daysInYear]
  cases isLeap year <;> rfl

private theorem count_newYear (year : Nat) : (Date.mk year 1 1).count = daysOfYears year := by
  simp only [Date.count, daysOfMonths, Int.toNat_natCast, Nat.sub_self, Nat.add_zero]

private theorem epoch_count : epoch.count = 719528 :=
  (count_newYear 1970).trans (daysOfYears_succ 1969)

/-- The number of the day of a date is what counting gives. -/
theorem Date.toDay_eq (valid : date.isValid = true) (late : 0 ≤ date.year) :
    date.toDay = (date.count : Int) - epoch.count := by
  obtain ⟨first, last, one, -⟩ := Date.isValid_iff.mp valid
  obtain ⟨year, same⟩ := Int.eq_ofNat_of_zero_le late
  have through := daysOfYears_succ year
  rw [daysOfYears, daysInYear] at through
  rw [epoch_count, Date.count, daysOfMonths_pred date.year first last, Date.toDay, epochOffset, same,
    Int.toNat_natCast]
  split
  · cases year with
    | zero => simp only [daysOfYears]; omega
    | succ n => rw [daysOfYears_succ]; omega
  · split at through
    · rename_i leap
      rw [if_pos leap]
      omega
    · rename_i short
      rw [if_neg short]
      omega

end Count

section Days

/-- A place in an era of 400 years: the century, the cycle of four years in it, the year of the cycle and the
day of the year, all from zero on. Years begin in March, so a leap day is the last day of the last year of a
cycle. The last cycle of a century has none, but for the last century. -/
structure Place where
  century : Nat
  cycle : Nat
  year : Nat
  day : Nat
  century_le : century ≤ 3
  cycle_le : cycle ≤ 24
  year_le : year ≤ 3
  day_le : day ≤ 365
  leap : day = 365 → year = 3 ∧ (cycle < 24 ∨ century = 3)

/-- The day of the era. -/
def Place.dayOfEra (place : Place) : Nat :=
  36524 * place.century + 1461 * place.cycle + 365 * place.year + place.day

/-- The year of the era. -/
def Place.yearOfEra (place : Place) : Nat :=
  100 * place.century + 4 * place.cycle + place.year

/-- The date of a day of a year that begins in March. -/
def dateInYear (year : Int) (day : Nat) : Date :=
  let march := (5 * day + 2) / 153
  let month := if march < 10 then march + 3 else march - 9
  ⟨if month ≤ 2 then year + 1 else year, month, day - (153 * march + 2) / 5 + 1⟩

private theorem exists_place {day : Nat} (inside : day < daysInEra) :
    ∃ place : Place, place.dayOfEra = day := by
  rw [daysInEra] at inside
  -- only the last century and the last year of a cycle have one day more than the others
  let century := min (day / 36524) 3
  let cycle := (day - 36524 * century) / 1461
  let year := min ((day - 36524 * century) % 1461 / 365) 3
  refine ⟨⟨century, cycle, year, (day - 36524 * century) % 1461 - 365 * year, by omega, by omega, by omega,
    by omega, by omega⟩, ?_⟩
  simp only [Place.dayOfEra]
  omega

private theorem Place.yearOfEra_eq (place : Place) :
    (place.dayOfEra - place.dayOfEra / 1460 + place.dayOfEra / 36524 - place.dayOfEra / 146096) / 365 =
      place.yearOfEra := by
  obtain ⟨century, cycle, year, day, hc, hq, hy, hd, leap⟩ := place
  simp only [Place.dayOfEra, Place.yearOfEra]
  generalize whole : 36524 * century + 1461 * cycle + 365 * year + day = days
  have cycles : days / 1460 =
      if 24 * century + cycle + 365 * year + day < 1460 then 25 * century + cycle
      else 25 * century + cycle + 1 := by
    split <;> omega
  have centuries : days / 36524 =
      if century = 3 ∧ cycle = 24 ∧ year = 3 ∧ day = 365 then 4 else century := by
    split <;> omega
  have eras : days / 146096 =
      if century = 3 ∧ cycle = 24 ∧ year = 3 ∧ day = 365 then 1 else 0 := by
    split <;> omega
  rw [cycles, centuries, eras]
  split <;> split <;> omega

private theorem Place.day_eq (place : Place) :
    place.dayOfEra - (365 * place.yearOfEra + place.yearOfEra / 4 - place.yearOfEra / 100) = place.day := by
  obtain ⟨century, cycle, year, day, hc, hq, hy, -, -⟩ := place
  simp only [Place.dayOfEra, Place.yearOfEra]
  omega

/-- Every day has an era and a place in it, which decide its date. -/
private theorem dateOfDay_place (day : Int) : ∃ (era : Int) (place : Place),
    day + epochOffset = daysInEra * era + place.dayOfEra ∧
      dateOfDay day = dateInYear (400 * era + place.yearOfEra) place.day := by
  have bounds : ((day + epochOffset) % daysInEra).toNat < daysInEra := by
    simp only [daysInEra, epochOffset]
    omega
  obtain ⟨place, rest⟩ := exists_place bounds
  refine ⟨(day + epochOffset) / daysInEra, place, ?_, ?_⟩
  · rw [rest]
    simp only [daysInEra, epochOffset]
    omega
  · have year : place.yearOfEra + (day + epochOffset) / daysInEra * 400 =
        400 * ((day + epochOffset) / daysInEra) + place.yearOfEra := by
      omega
    simp only [dateOfDay, dateInYear, ← rest, place.yearOfEra_eq, place.day_eq, year]

private theorem dateInYear_isValid {year : Int} {day : Nat} (inside : day ≤ 365)
    (leap : day = 365 → isLeap (year + 1) = true) : (dateInYear year day).isValid = true := by
  rw [Date.isValid_iff]
  obtain ⟨march, same⟩ : ∃ march, march = (5 * day + 2) / 153 := ⟨_, rfl⟩
  by_cases february : march = 11
  · have shape : dateInYear year day = ⟨year + 1, 2, day - 336⟩ := by
      simp [dateInYear, ← same, february]
      omega
    rw [shape]
    simp only [daysInMonth, if_true]
    split
    · omega
    · rename_i short
      have before : day ≠ 365 := fun last => short (leap last)
      omega
  · have small : march < 11 := by omega
    simp only [dateInYear, ← same]
    interval_cases march <;> simp [daysInMonth] <;> omega

private theorem toDay_dateInYear {year : Int} {day : Nat} (inside : day ≤ 365) :
    (dateInYear year day).toDay =
      365 * year + year / 4 - year / 100 + year / 400 + day - epochOffset := by
  simp only [Date.toDay, dateInYear, epochOffset]
  split <;> split <;> omega

/-- The date of a day stands in the calendar. -/
theorem dateOfDay_isValid (day : Int) : (dateOfDay day).isValid = true := by
  obtain ⟨era, place, -, date⟩ := dateOfDay_place day
  rw [date]
  refine dateInYear_isValid place.day_le fun last => isLeap_iff.mpr ?_
  obtain ⟨fourth, inner⟩ := place.leap last
  have centuries := place.century_le
  have cycles := place.cycle_le
  rw [Place.yearOfEra]
  omega

/-- The number of the day can be got back from its date. -/
theorem toDay_dateOfDay (day : Int) : (dateOfDay day).toDay = day := by
  obtain ⟨era, ⟨century, cycle, year, rest, hc, hq, hy, hd, _⟩, whole, date⟩ := dateOfDay_place day
  rw [date, toDay_dateInYear hd]
  simp only [Place.dayOfEra, Place.yearOfEra, epochOffset, daysInEra] at whole ⊢
  omega

private theorem year_dateOfDay {day : Int} (first : -719528 ≤ day) (last : day < 2932897) :
    0 ≤ (dateOfDay day).year ∧ (dateOfDay day).year ≤ 9999 := by
  obtain ⟨era, ⟨century, cycle, year, rest, hc, hq, hy, hd, _⟩, whole, date⟩ := dateOfDay_place day
  simp only [Place.dayOfEra, Place.yearOfEra, epochOffset, daysInEra] at whole date
  -- the years 0 and 9999 are the last of their eras, in part
  have bounds : -1 ≤ era ∧ era ≤ 24 := by omega
  have early : era = -1 → 100 * century + 4 * cycle + year = 399 ∧ 306 ≤ rest := by omega
  have late : era = 24 → 100 * century + 4 * cycle + year < 399 ∨ rest < 306 := by omega
  simp only [date, dateInYear]
  split <;> split <;> omega

theorem timeOfSecond_isValid {second : Nat} (inside : second < 86400) :
    (timeOfSecond second).isValid = true := by
  rw [Time.isValid_iff]
  simp only [timeOfSecond]
  omega

theorem count_timeOfSecond (second : Nat) : (timeOfSecond second).count = second := by
  simp only [timeOfSecond, Time.count]
  omega

end Days

section Order

/-- Of two places that are each told by a unit and a rest within it, the units decide, and in one unit the
rests. -/
theorem lt_iff_of_fits {start : Nat → Nat} (mono : Monotone start) {x y r s : Nat}
    (fits : start x + r < start (x + 1)) (fits' : start y + s < start (y + 1)) :
    start x + r < start y + s ↔ x < y ∨ x = y ∧ r < s := by
  rcases Nat.lt_trichotomy x y with less | rfl | more
  · have apart : start (x + 1) ≤ start y := mono less
    omega
  · omega
  · have apart : start (y + 1) ≤ start x := mono more
    omega

theorem eq_iff_of_fits {start : Nat → Nat} (mono : Monotone start) {x y r s : Nat}
    (fits : start x + r < start (x + 1)) (fits' : start y + s < start (y + 1)) :
    start x + r = start y + s ↔ x = y ∧ r = s := by
  have less := lt_iff_of_fits mono fits fits'
  have more := lt_iff_of_fits mono fits' fits
  grind

variable {date date' : Date} {time time' : Time}

private theorem daysOfYears_mono : Monotone daysOfYears :=
  monotone_nat_of_le_succ fun _ => Nat.le_add_right _ _

private theorem daysOfMonths_mono (year : Int) : Monotone (daysOfMonths year) :=
  monotone_nat_of_le_succ fun _ => Nat.le_add_right _ _

private theorem fits_month (year : Int) {month day : Nat} (first : 1 ≤ day)
    (last : day ≤ daysInMonth year (month + 1)) :
    daysOfMonths year month + (day - 1) < daysOfMonths year (month + 1) := by
  rw [daysOfMonths]
  omega

private theorem fits_year (year : Nat) {month day : Nat} (inside : month + 1 ≤ 12) (first : 1 ≤ day)
    (last : day ≤ daysInMonth year (month + 1)) :
    daysOfYears year + (daysOfMonths year month + (day - 1)) < daysOfYears (year + 1) := by
  have within := fits_month year first last
  have whole := daysOfMonths_mono year inside
  rw [daysOfMonths_twelve] at whole
  rw [daysOfYears]
  omega

/-- Dates are counted in the order of year, month and day. -/
theorem Date.count_lt_iff (valid : date.isValid = true) (valid' : date'.isValid = true)
    (late : 0 ≤ date.year) (late' : 0 ≤ date'.year) : date.count < date'.count ↔
      date.year < date'.year ∨ date.year = date'.year ∧ (date.month < date'.month ∨
        date.month = date'.month ∧ date.day < date'.day) := by
  rw [Date.isValid_iff] at valid valid'
  obtain ⟨year, month, day⟩ := date
  obtain ⟨year', month', day'⟩ := date'
  obtain ⟨year, rfl⟩ := Int.eq_ofNat_of_zero_le late
  obtain ⟨year', rfl⟩ := Int.eq_ofNat_of_zero_le late'
  simp only at valid valid'
  obtain ⟨one, twelve, first, last⟩ := valid
  obtain ⟨one', twelve', first', last'⟩ := valid'
  obtain ⟨month, rfl⟩ := Nat.exists_eq_add_of_le' one
  obtain ⟨month', rfl⟩ := Nat.exists_eq_add_of_le' one'
  simp only [Date.count, Int.toNat_natCast, Nat.add_sub_cancel]
  rw [lt_iff_of_fits daysOfYears_mono (fits_year year twelve first last)
    (fits_year year' twelve' first' last')]
  by_cases same : year = year'
  · subst same
    rw [lt_iff_of_fits (daysOfMonths_mono _) (fits_month year first last) (fits_month year first' last')]
    omega
  · omega

/-- No two dates have one count. -/
theorem Date.count_eq_iff (valid : date.isValid = true) (valid' : date'.isValid = true)
    (late : 0 ≤ date.year) (late' : 0 ≤ date'.year) : date.count = date'.count ↔
      date.year = date'.year ∧ date.month = date'.month ∧ date.day = date'.day := by
  have less := Date.count_lt_iff valid valid' late late'
  have more := Date.count_lt_iff valid' valid late' late
  omega

theorem Time.count_lt (valid : time.isValid = true) : time.count < 86400 := by
  rw [Time.isValid_iff] at valid
  simp only [Time.count]
  omega

theorem Time.count_lt_iff (valid : time.isValid = true) (valid' : time'.isValid = true) :
    time.count < time'.count ↔ time.hour < time'.hour ∨ time.hour = time'.hour ∧
      (time.minute < time'.minute ∨ time.minute = time'.minute ∧ time.second < time'.second) := by
  rw [Time.isValid_iff] at valid valid'
  simp only [Time.count]
  omega

theorem secondsAt_lt_iff (valid : time.isValid = true) (valid' : time'.isValid = true) :
    secondsAt date time < secondsAt date' time' ↔
      date.count < date'.count ∨ date.count = date'.count ∧ time.count < time'.count := by
  have short := Time.count_lt valid
  have short' := Time.count_lt valid'
  rw [secondsAt, secondsAt]
  omega

/-- Where one order is the other in both directions, so is the comparison. -/
theorem compare_congr {α β : Type} [LinearOrder α] [LinearOrder β] {a b : α} {c d : β}
    (up : a < b ↔ c < d) (down : b < a ↔ d < c) : compare a b = compare c d := by
  rcases lt_trichotomy a b with less | same | more
  · rw [compare_lt_iff_lt.mpr less, compare_lt_iff_lt.mpr (up.mp less)]
  · have below : ¬c < d := fun h => (up.mpr h).ne same
    have above : ¬d < c := fun h => (down.mpr h).ne' same
    have still : c = d := le_antisymm (not_lt.mp above) (not_lt.mp below)
    rw [compare_eq_iff_eq.mpr same, compare_eq_iff_eq.mpr still]
  · rw [compare_gt_iff_gt.mpr more, compare_gt_iff_gt.mpr (down.mp more)]

end Order

section Stamps

/-- A number in a field of fixed width. -/
structure Written (width n : Nat) (digits : List Char) : Prop where
  length : digits.length = width
  digit : ∀ c ∈ digits, c.isDigit = true
  value : Text.digitsValue digits = n

/-- Reads the numbers of a text that is made of fields of fixed width, each with a mark behind it. -/
def readFields? : List (Nat × List Char) → List Char → Option (List Nat)
  | [], cs => if cs.isEmpty then some [] else none
  | (width, mark) :: form, cs =>
    let digits := cs.take width
    if digits.length = width ∧ digits.all Char.isDigit = true then
      match Text.afterStart? mark (cs.drop width) with
      | some rest => (readFields? form rest).map (Text.digitsValue digits :: ·)
      | none => none
    else none

/-- The fields of a date and a time of day. -/
def stampForm : List (Nat × List Char) :=
  [(4, ['-']), (2, ['-']), (2, [' ']), (2, [':']), (2, [':']), (2, " UTC".toList)]

/-- Reads a text of the form `YYYY-MM-DD HH:MM:SS UTC`. -/
def readStamp? (text : String) : Option (Date × Time) :=
  match readFields? stampForm text.toList with
  | some [year, month, day, hour, minute, second] =>
    some (⟨year, month, day⟩, ⟨hour, minute, second⟩)
  | _ => none

variable {form : List (Nat × List Char)} {width n : Nat} {mark digits cs cs' rest : List Char}
  {numbers numbers' : List Nat}

theorem readFields?_append (field : Written width n digits) (read : readFields? form rest = some numbers) :
    readFields? ((width, mark) :: form) (digits ++ (mark ++ rest)) = some (n :: numbers) := by
  obtain ⟨rfl, digit, rfl⟩ := field
  have follows : Text.afterStart? mark (mark ++ rest) = some rest := (Text.afterStart?_eq_some _ _ _).mpr rfl
  rw [readFields?, List.take_left, List.drop_left, if_pos ⟨rfl, List.all_eq_true.mpr digit⟩]
  simp only [follows, read, Option.map_some]

private theorem exists_of_readFields? (read : readFields? ((width, mark) :: form) cs = some numbers) :
    ∃ n digits rest others, Written width n digits ∧ cs = digits ++ (mark ++ rest) ∧
      readFields? form rest = some others ∧ numbers = n :: others := by
  rw [readFields?] at read
  split at read
  · rename_i whole
    split at read
    · rename_i rest follows
      obtain ⟨others, later, rfl⟩ := Option.map_eq_some_iff.mp read
      refine ⟨_, cs.take width, rest, others, ⟨whole.1, List.all_eq_true.mp whole.2, rfl⟩, ?_, later, rfl⟩
      rw [← (Text.afterStart?_eq_some _ _ _).mp follows, List.take_append_drop]
    · exact absurd read (by simp)
  · exact absurd read (by simp)

/-- Fields of one width come in the order of their numbers. -/
theorem Written.append_lt_iff {m : Nat} {xs ys r s : List Char} (first : Written width m xs)
    (second : Written width n ys) : xs ++ r < ys ++ s ↔ m < n ∨ m = n ∧ r < s := by
  obtain ⟨rfl, digits, rfl⟩ := first
  obtain ⟨same, digits', rfl⟩ := second
  induction xs generalizing ys with
  | nil =>
    obtain rfl := List.length_eq_zero_iff.mp same
    simp
  | cons c xs ih =>
    cases ys with
    | nil => exact absurd same (by simp)
    | cons d ys =>
      have size : ys.length = xs.length := Nat.succ.inj same
      obtain ⟨here, digits⟩ := List.forall_mem_cons.mp digits
      obtain ⟨here', digits'⟩ := List.forall_mem_cons.mp digits'
      have zero := (Char.isDigit_iff_toNat.mp here).1
      have zero' := (Char.isDigit_iff_toNat.mp here').1
      have less : c < d ↔ c.toNat - '0'.toNat < d.toNat - '0'.toNat :=
        (Nat.sub_lt_sub_iff_right zero).symm
      have equal : c = d ↔ c.toNat - '0'.toNat = d.toNat - '0'.toNat := by
        rw [← Char.toNat_inj]
        omega
      have fits := Text.digitsValue_lt digits
      have fits' := Text.digitsValue_lt digits'
      rw [size] at fits'
      -- the first digit counts units, and the digits behind it do not fill one
      have mono : Monotone (· * 10 ^ xs.length) := fun _ _ le => Nat.mul_le_mul_right _ le
      have filled : ∀ {unit rest : Nat}, rest < 10 ^ xs.length →
          unit * 10 ^ xs.length + rest < (unit + 1) * 10 ^ xs.length := fun less => by
        rw [Nat.succ_mul]
        exact Nat.add_lt_add_left less _
      rw [List.cons_append, List.cons_append, List.cons_lt_cons_iff, ih digits size digits',
        Text.digitsValue_cons, Text.digitsValue_cons, size, lt_iff_of_fits mono (filled fits) (filled fits'),
        eq_iff_of_fits mono (filled fits) (filled fits'), less, equal]
      simp only [and_or_left, or_assoc, and_assoc]

private theorem append_lt_append_iff : mark ++ cs < mark ++ cs' ↔ cs < cs' := by
  induction mark with
  | nil => rfl
  | cons c mark ih => simpa using ih

/-- Texts of one form come in the order of their numbers. -/
theorem readFields?_lt_iff (read : readFields? form cs = some numbers)
    (read' : readFields? form cs' = some numbers') : cs < cs' ↔ numbers < numbers' := by
  induction form generalizing cs cs' numbers numbers' with
  | nil =>
    simp only [readFields?, Option.ite_none_right_eq_some, List.isEmpty_iff, Option.some.injEq] at read read'
    obtain ⟨rfl, rfl⟩ := read
    obtain ⟨rfl, rfl⟩ := read'
    simp
  | cons field form ih =>
    obtain ⟨width, mark⟩ := field
    obtain ⟨n, digits, rest, others, here, rfl, later, rfl⟩ := exists_of_readFields? read
    obtain ⟨n', digits', rest', others', here', rfl, later', rfl⟩ := exists_of_readFields? read'
    rw [here.append_lt_iff here', append_lt_append_iff, ih later later', List.cons_lt_cons_iff]

variable {date date' : Date} {time time' : Time} {text text' : String}

theorem readStamp?_eq_some_iff : readStamp? text = some (date, time) ↔ 0 ≤ date.year ∧
    readFields? stampForm text.toList =
      some [date.year.toNat, date.month, date.day, time.hour, time.minute, time.second] := by
  rw [readStamp?]
  constructor
  · intro read
    split at read
    · rename_i year month day hour minute second fields
      obtain ⟨rfl, rfl⟩ := Prod.mk.inj (Option.some.inj read)
      exact ⟨Int.natCast_nonneg year, fields⟩
    · exact absurd read (by simp)
  · rintro ⟨late, fields⟩
    simp only [fields, Int.toNat_of_nonneg late]

/-- Texts that show dates and times come in the order of the seconds that these name. -/
theorem readStamp?_lt_iff (read : readStamp? text = some (date, time))
    (read' : readStamp? text' = some (date', time')) (valid : date.isValid = true ∧ time.isValid = true)
    (valid' : date'.isValid = true ∧ time'.isValid = true) :
    text < text' ↔ secondsAt date time < secondsAt date' time' := by
  obtain ⟨late, fields⟩ := readStamp?_eq_some_iff.mp read
  obtain ⟨late', fields'⟩ := readStamp?_eq_some_iff.mp read'
  have years : date.year.toNat < date'.year.toNat ↔ date.year < date'.year := by omega
  have years' : date.year.toNat = date'.year.toNat ↔ date.year = date'.year := by omega
  rw [String.lt_iff_toList_lt, readFields?_lt_iff fields fields', secondsAt_lt_iff valid.2 valid'.2,
    Date.count_lt_iff valid.1 valid'.1 late late', Date.count_eq_iff valid.1 valid'.1 late late',
    Time.count_lt_iff valid.2 valid'.2]
  simp only [List.cons_lt_cons_iff, years, years', List.lt_irrefl, and_false, or_false, and_or_left, or_assoc,
    and_assoc]

private theorem isDigit_of_mem_padded {c : Char} (mem : c ∈ padded width n) : c.isDigit = true := by
  rcases List.mem_append.mp mem with zero | digit
  · rw [List.eq_of_mem_replicate zero]
    rfl
  · exact Text.isDigit_of_mem_toDigits digit

theorem written_padded (positive : 0 < width) (small : n < 10 ^ width) :
    Written width n (padded width n) where
  length := by
    have short := (Nat.length_toDigits_le_iff (by decide) positive).mpr small
    simp only [padded, List.length_append, List.length_replicate]
    omega
  digit := fun _ => isDigit_of_mem_padded
  value := by
    rw [Text.digitsValue_eq, padded, Nat.ofDigitChars_append, Nat.ofDigitChars_replicate_zero,
      Nat.mul_zero, Nat.ofDigitChars_ten_toDigits]

/-- With a year of four digits the first nineteen characters hold all of an instant. -/
theorem readStamp?_instantText (valid : date.isValid = true) (valid' : time.isValid = true)
    (late : 0 ≤ date.year) (small : date.year ≤ 9999) :
    readStamp? (String.ofList ((instantText ' ' date time).take 19 ++ " UTC".toList)) = some (date, time) := by
  rw [Date.isValid_iff] at valid
  rw [Time.isValid_iff] at valid'
  have short := daysInMonth_le date.year date.month
  have year : Written 4 date.year.toNat (padded 4 date.year.toNat) := written_padded (by decide) (by omega)
  have month : Written 2 date.month (padded 2 date.month) := written_padded (by decide) (by omega)
  have day : Written 2 date.day (padded 2 date.day) := written_padded (by decide) (by omega)
  have hour : Written 2 time.hour (padded 2 time.hour) := written_padded (by decide) (by omega)
  have minute : Written 2 time.minute (padded 2 time.minute) := written_padded (by decide) (by omega)
  have second : Written 2 time.second (padded 2 time.second) := written_padded (by decide) (by omega)
  have size : (instantText ' ' date time).length = 19 := by
    simp [instantText, yearText, late, small, year.length, month.length, day.length, hour.length,
      minute.length, second.length]
  have whole : (String.ofList ((instantText ' ' date time).take 19 ++ " UTC".toList)).toList =
      padded 4 date.year.toNat ++ (['-'] ++ (padded 2 date.month ++ (['-'] ++ (padded 2 date.day ++ ([' '] ++
        (padded 2 time.hour ++ ([':'] ++ (padded 2 time.minute ++ ([':'] ++ (padded 2 time.second ++
          (" UTC".toList ++ []))))))))))) := by
    rw [String.toList_ofList, List.take_of_length_le (Nat.le_of_eq size)]
    simp [instantText, yearText, late, small]
  rw [readStamp?_eq_some_iff, whole]
  have last : readFields? [] [] = some [] := rfl
  exact ⟨late, readFields?_append year <| readFields?_append month <| readFields?_append day <|
    readFields?_append hour <| readFields?_append minute <| readFields?_append second last⟩

end Stamps

section Cut

/-- The text of an instant by coordinated universal time, down to the millisecond. -/
def isoText (milliseconds : Int) : List Char :=
  let seconds := milliseconds / 1000
  instantText 'T' (dateOfDay (seconds / 86400)) (timeOfSecond (seconds % 86400).toNat) ++ ['.'] ++
    padded 3 (milliseconds % 1000).toNat ++ ['Z']

variable {c d : Char} {front back : List Char} {year : Int} {date : Date} {time : Time} {width n : Nat}

private theorem replace_take (absent : c ∉ front) :
    ((front ++ c :: back).take n).replace c d = (front ++ d :: back).take n := by
  induction front generalizing n with
  | nil => cases n <;> simp
  | cons e front ih =>
    have other : (c == e) = false := beq_false_of_ne fun same => absent (same ▸ List.mem_cons_self)
    cases n with
    | zero => rfl
    | succ n =>
      rw [List.cons_append, List.cons_append, List.take_succ_cons, List.take_succ_cons, List.replace_cons, other,
        ih fun mem => absent (List.mem_cons_of_mem e mem)]

private theorem le_length_padded (width n : Nat) : width ≤ (padded width n).length := by
  simp only [padded, List.length_append, List.length_replicate]
  omega

private theorem le_length_instantText (mark : Char) (date : Date) (time : Time) :
    19 ≤ (instantText mark date time).length := by
  have year : 4 ≤ (yearText date.year).length := by
    rw [yearText]
    split
    · exact le_length_padded 4 _
    · have six := le_length_padded 6 date.year.natAbs
      rw [List.length_cons]
      omega
  have month := le_length_padded 2 date.month
  have day := le_length_padded 2 date.day
  have hour := le_length_padded 2 time.hour
  have minute := le_length_padded 2 time.minute
  have second := le_length_padded 2 time.second
  simp only [instantText, List.length_append, List.length_singleton]
  omega

/-- The letter before the time of day stands nowhere in the date. -/
private theorem exists_instantText (date : Date) (time : Time) :
    ∃ front back, 'T' ∉ front ∧ ∀ mark, instantText mark date time = front ++ mark :: back := by
  have digits : ∀ {width n}, 'T' ∉ padded width n := fun mem =>
    absurd (isDigit_of_mem_padded mem) (by decide)
  have year : 'T' ∉ yearText date.year := by
    rw [yearText]
    split
    · exact digits
    · split <;> simp [digits]
  refine ⟨yearText date.year ++ ['-'] ++ padded 2 date.month ++ ['-'] ++ padded 2 date.day,
    padded 2 time.hour ++ [':'] ++ padded 2 time.minute ++ [':'] ++ padded 2 time.second, ?_, fun mark => ?_⟩
  · simp [year, digits]
  · simp [instantText]

/-- A build date is cut from the text of the instant, with a space for the first `T`. -/
theorem buildDate_eq (milliseconds : Int) : buildDate milliseconds =
    String.ofList (((isoText milliseconds).take 19).replace 'T' ' ' ++ " UTC".toList) := by
  rw [buildDate, isoText]
  generalize dateOfDay (milliseconds / 1000 / 86400) = date
  generalize timeOfSecond (milliseconds / 1000 % 86400).toNat = time
  have long := le_length_instantText 'T' date time
  obtain ⟨front, back, absent, parts⟩ := exists_instantText date time
  rw [List.append_assoc, List.append_assoc, List.take_append_of_le_length long, parts, parts,
    replace_take absent]

end Cut

section Instants

/-- The instants of the years that four digits write, in milliseconds from the beginning of 1970. -/
def InFourDigits (milliseconds : Int) : Prop :=
  1000 * secondsAt ⟨0, 1, 1⟩ ⟨0, 0, 0⟩ ≤ milliseconds ∧
    milliseconds < 1000 * secondsAt ⟨10000, 1, 1⟩ ⟨0, 0, 0⟩

variable {milliseconds : Int}

theorem inFourDigits_iff : InFourDigits milliseconds ↔
    -62167219200000 ≤ milliseconds ∧ milliseconds < 253402300800000 := by
  have last : (Date.mk 10000 1 1).count = 3652425 := (count_newYear 10000).trans (daysOfYears_succ 9999)
  have first : (Date.mk 0 1 1).count = 0 := count_newYear 0
  have midnight : (Time.mk 0 0 0).count = 0 := rfl
  rw [InFourDigits, secondsAt, secondsAt, first, last, midnight, epoch_count]
  omega

/-- Such an instant is not too far away. -/
theorem InFourDigits.instant? (inside : InFourDigits milliseconds) :
    instant? (Number.ofInt milliseconds) = some milliseconds := by
  obtain ⟨first, last⟩ := inFourDigits_iff.mp inside
  have small : milliseconds.natAbs ≤ Number.exactBound := by
    rw [Number.exactBound]
    omega
  have above : ¬(farthest : Rat) < milliseconds := by
    rw [farthest]
    norm_cast
    omega
  have below : ¬(milliseconds : Rat) < -(farthest : Rat) := by
    rw [farthest]
    norm_cast
    omega
  rw [Number.ofInt_eq_finite small]
  simp [Calendar.instant?, above, below, Number.truncate?]

/-- The build date of such an instant shows its second. -/
theorem InFourDigits.readStamp? (inside : InFourDigits milliseconds) : ∃ date time,
    readStamp? (buildDate milliseconds) = some (date, time) ∧ date.isValid = true ∧ time.isValid = true ∧
      secondsAt date time = milliseconds / 1000 := by
  obtain ⟨first, last⟩ := inFourDigits_iff.mp inside
  have valid := dateOfDay_isValid (milliseconds / 1000 / 86400)
  have clock : (timeOfSecond (milliseconds / 1000 % 86400).toNat).isValid = true :=
    timeOfSecond_isValid (by omega)
  have year : 0 ≤ (dateOfDay (milliseconds / 1000 / 86400)).year ∧ _ := year_dateOfDay (by omega) (by omega)
  obtain ⟨late, small⟩ := year
  have days := Date.toDay_eq valid late
  refine ⟨_, _, readStamp?_instantText valid clock late small, valid, clock, ?_⟩
  rw [toDay_dateOfDay] at days
  rw [secondsAt, ← days, count_timeOfSecond]
  omega

/-- The build date of an instant whose year has four digits is a date of the calendar and a time of the clock in
the form `YYYY-MM-DD HH:MM:SS UTC`, and these name the second of the instant. Build dates are in the order of the
seconds. -/
theorem buildDate_in_order {first second : Int} (early : InFourDigits first) (late : InFourDigits second) :
    instant? (Number.ofInt first) = some first ∧
    (∃ date time, readStamp? (buildDate first) = some (date, time) ∧ date.isValid = true ∧
      time.isValid = true ∧ secondsAt date time = first / 1000) ∧
    compare (buildDate first) (buildDate second) = compare (first / 1000) (second / 1000) := by
  obtain ⟨date, time, read, valid, clock, seconds⟩ := early.readStamp?
  obtain ⟨date', time', read', valid', clock', seconds'⟩ := late.readStamp?
  refine ⟨early.instant?, ⟨date, time, read, valid, clock, seconds⟩, ?_⟩
  rw [← seconds, ← seconds']
  exact compare_congr (readStamp?_lt_iff read read' ⟨valid, clock⟩ ⟨valid', clock'⟩)
    (readStamp?_lt_iff read' read ⟨valid', clock'⟩ ⟨valid, clock⟩)

/-- The last millisecond before 1970 and the leap day of a year that 400 divides. -/
theorem buildDate_in_order_before :
    InFourDigits (-1) ∧ InFourDigits 951827696789 ∧
      (∃ date time, readStamp? (buildDate (-1)) = some (date, time) ∧ secondsAt date time = -1) ∧
      compare (buildDate (-1)) (buildDate 951827696789) = .lt := by
  have early : InFourDigits (-1) := inFourDigits_iff.mpr (by decide)
  have late : InFourDigits 951827696789 := inFourDigits_iff.mpr (by decide)
  obtain ⟨-, ⟨date, time, read, -, -, seconds⟩, order⟩ := buildDate_in_order early late
  exact ⟨early, late, ⟨date, time, read, seconds⟩, order⟩

end Instants

end DocMend.Calendar

/-!
# The calendar

Dates of the Gregorian calendar, carried on to all years.

## Main definitions

* `Date`, `Date.IsValid`: a day of a month of a year
* `Date.ofDays`: the date of a day that is counted from the first of January 1970
* `Date.dayOfYear`: the number of a day in its year
* `weekday`, `isoWeek`: weeks, which begin on Mondays
-/

namespace FrameChunks

/-- Whether a year has a leap day. -/
def isLeapYear (year : Int) : Bool := year % 4 = 0 && (year % 100 ≠ 0 || year % 400 = 0)

/-- The number of days of a month. -/
def daysOfMonth (year : Int) (month : Nat) : Nat :=
  match month with
  | 2 => if isLeapYear year then 29 else 28
  | 4 | 6 | 9 | 11 => 30
  | _ => 31

/-- A day of a month of a year. -/
structure Date where
  year : Int
  month : Nat
  day : Nat
  deriving DecidableEq, Repr

namespace Date

/-- Whether there is such a date in a year from 1 on. -/
def IsValid (d : Date) : Prop :=
  1 ≤ d.year ∧ 1 ≤ d.month ∧ d.month ≤ 12 ∧ 1 ≤ d.day ∧ d.day ≤ daysOfMonth d.year d.month

instance (d : Date) : Decidable d.IsValid :=
  inferInstanceAs (Decidable (1 ≤ d.year ∧ 1 ≤ d.month ∧ d.month ≤ 12 ∧ 1 ≤ d.day ∧
    d.day ≤ daysOfMonth d.year d.month))

/-- The number of days of four hundred years, after which the calendar repeats. -/
def daysOfEra : Int := 146097

/-- The date of a day counted from the first of January 1970. Years are counted from March on, so
that a leap day ends its year, and months from March on have 153 days in five. -/
def ofDays (days : Int) : Date :=
  let z := days + 719468
  let era := z.fdiv daysOfEra
  let e := (z.fmod daysOfEra).toNat
  let y := (e - e / 1460 + e / 36524 - e / 146096) / 365
  let d := e - (365 * y + y / 4 - y / 100)
  let m := (5 * d + 2) / 153
  let month := if m < 10 then m + 3 else m - 9
  ⟨(y : Int) + 400 * era + (if month ≤ 2 then 1 else 0), month, d - (153 * m + 2) / 5 + 1⟩

example : ofDays 0 = ⟨1970, 1, 1⟩ ∧ ofDays (-1) = ⟨1969, 12, 31⟩ := by decide

example : ofDays 11016 = ⟨2000, 2, 29⟩ ∧ ofDays 11017 = ⟨2000, 3, 1⟩ := by decide

/-- The number of a day in its year; the first one is zero. -/
def dayOfYear (d : Date) : Nat :=
  (List.range (d.month - 1)).foldr (fun m n => daysOfMonth d.year (m + 1) + n) (d.day - 1)

end Date

/-- The day of the week, from Sunday on, of a day counted from the first of January 1970. -/
def weekday (days : Int) : Nat := ((days + 4).fmod 7).toNat

/-- The year and the number of the week that a day lies in. Weeks begin on Mondays and belong to the
year that their Thursday lies in. -/
def isoWeek (days : Int) : Int × Nat :=
  let thursday := Date.ofDays (days - (days + 3).fmod 7 + 3)
  (thursday.year, thursday.dayOfYear / 7 + 1)

example : weekday 0 = 4 ∧ isoWeek 0 = (1970, 1) ∧ isoWeek 14245 = (2009, 1) := by decide

end FrameChunks

/-! The proleptic Gregorian calendar.

Days are numbered from the first of January of year 0, backwards with negative
numbers. `yearStart_le` and `lt_yearStart` say that a day lies in its year. -/
namespace Flowmeter.Calendar

/-- The number of the first day of a year: 365 days for each year before it and one more
for each leap year among them. -/
def yearStart (year : Int) : Int :=
  365 * year + (year + 3) / 4 - (year + 99) / 100 + (year + 399) / 400

/-- The year of a day. Four hundred years have 146097 days, so a proportion comes within a
year of it. -/
def yearOf (day : Int) : Int :=
  let year := 400 * day / 146097
  if day < yearStart year then year - 1
  else if yearStart (year + 1) ≤ day then year + 1
  else year

/-- Whether a year has a leap day. -/
def isLeap (year : Int) : Bool := year % 4 == 0 && (year % 100 != 0 || year % 400 == 0)

/-- How long the months of a year are. -/
def monthLengths (year : Int) : List Nat :=
  [31, if isLeap year then 29 else 28, 31, 30, 31, 30, 31, 31, 30, 31, 30, 31]

/-- The month, and the day in it, of a day counted from the start of the months; all count
from 0. -/
def monthDay : List Nat → Nat → Nat × Nat
  | [], day => (0, day)
  | length :: rest, day =>
    if day < length then (0, day)
    else
      let (month, day) := monthDay rest (day - length)
      (month + 1, day)

/-- A day of the calendar; month and day count from 1. -/
structure Date where
  year : Int
  month : Nat
  day : Nat
  deriving DecidableEq, Repr

/-- The date of a day. -/
def Date.ofDay (day : Int) : Date :=
  let year := yearOf day
  let (month, inMonth) := monthDay (monthLengths year) (day - yearStart year).toNat
  ⟨year, month + 1, inMonth + 1⟩

/-- The number of the first of January 1970. -/
def epoch : Int := 719528

theorem yearStart_le (day : Int) : yearStart (yearOf day) ≤ day := by
  unfold yearOf
  simp only
  split
  · simp only [yearStart] at *; omega
  · split
    · assumption
    · omega

theorem lt_yearStart (day : Int) : day < yearStart (yearOf day + 1) := by
  unfold yearOf
  simp only
  split
  · rwa [Int.sub_add_cancel]
  · split
    · simp only [yearStart] at *; omega
    · omega

end Flowmeter.Calendar

import Mathlib.Algebra.GroupWithZero.Nat
import Flowmeter.EventLog.Calendar

/-! Days and dates.

The calendar is told here by counting: a leap year has 366 days and any other 365, and the days
before a date are those of the years and months that are over (`dayNumber`). The first day of a
year is found without counting (`yearStart_eq`), and the date of a day is the one with its number
(`ofDay_spec`). Later dates have greater numbers (`dayNumber_lt`). -/
namespace Flowmeter.Calendar

/-! ### Years -/

/-- How many days a year has. -/
def yearLength (year : Nat) : Nat := if isLeap year then 366 else 365

/-- How many days the years before a year have, from year 0 on. -/
def daysBefore : Nat → Nat
  | 0 => 0
  | year + 1 => daysBefore year + yearLength year

theorem yearStart_succ (year : Nat) :
    yearStart (year + 1) = yearStart year + yearLength year := by
  have hleap : isLeap year = true ↔ year % 4 = 0 ∧ (year % 100 ≠ 0 ∨ year % 400 = 0) := by
    simp only [isLeap, Bool.and_eq_true, Bool.or_eq_true, beq_iff_eq, bne_iff_ne]
    omega
  simp only [yearStart, yearLength]
  split
  · next h =>
    have := hleap.1 h
    omega
  · next h =>
    have := mt hleap.2 h
    omega

/-- The first day of a year comes after the days of the years before. -/
theorem yearStart_eq (year : Nat) : yearStart year = daysBefore year := by
  induction year with
  | zero => rfl
  | succ year ih => rw [Int.natCast_succ, yearStart_succ, ih, daysBefore, Int.natCast_add]

theorem daysBefore_le {year later : Nat} (h : year ≤ later) :
    daysBefore year ≤ daysBefore later := by
  induction h with
  | refl => exact Nat.le_refl _
  | step _ ih => exact Nat.le_trans ih (Nat.le_add_right ..)

/-! ### Months -/

/-- How many days a year has before a month; months count from 0. -/
def monthStart (year month : Nat) : Nat := ((monthLengths year).take month).sum

theorem monthStart_succ (year month : Nat) :
    monthStart year (month + 1) =
      monthStart year month + (monthLengths year)[month]?.getD 0 := by
  rw [monthStart, List.take_add_one, List.sum_append_nat, monthStart]
  cases (monthLengths year)[month]? <;> rfl

theorem monthStart_le (year : Nat) {month later : Nat} (h : month ≤ later) :
    monthStart year month ≤ monthStart year later := by
  induction h with
  | refl => exact Nat.le_refl _
  | step _ ih =>
    rw [monthStart_succ]
    exact Nat.le_trans ih (Nat.le_add_right ..)

theorem monthStart_twelve (year : Nat) : monthStart year 12 = yearLength year := by
  simp only [monthStart, monthLengths, yearLength]
  split <;> rfl

/-- A day of a year lies in the month that is found for it. -/
theorem monthDay_spec {lengths : List Nat} {day : Nat} (h : day < lengths.sum) :
    (monthDay lengths day).1 < lengths.length ∧
      (lengths.take (monthDay lengths day).1).sum + (monthDay lengths day).2 = day ∧
      (monthDay lengths day).2 < lengths[(monthDay lengths day).1]?.getD 0 := by
  induction lengths generalizing day with
  | nil => exact absurd h (Nat.not_lt_zero day)
  | cons length rest ih =>
    rw [monthDay]
    split
    · next hin => exact ⟨Nat.succ_pos _, Nat.zero_add day, hin⟩
    · next hout =>
      rw [List.sum_cons] at h
      have hrest : day - length < rest.sum := by omega
      obtain ⟨hmonth, hday, hlt⟩ := ih hrest
      refine ⟨Nat.succ_lt_succ hmonth, ?_, hlt⟩
      show ((length :: rest).take ((monthDay rest (day - length)).1 + 1)).sum +
        (monthDay rest (day - length)).2 = day
      rw [List.take_succ_cons, List.sum_cons]
      omega

/-! ### Dates -/

/-- There is such a day in the calendar. -/
structure IsDay (year month day : Nat) : Prop where
  month_pos : 1 ≤ month
  month_le : month ≤ 12
  day_pos : 1 ≤ day
  day_le : day ≤ (monthLengths year)[month - 1]?.getD 0

/-- How many days come before a date, from the first of January of year 0 on. -/
def dayNumber (year month day : Nat) : Nat :=
  daysBefore year + monthStart year (month - 1) + (day - 1)

variable {year month day year' month' day' : Nat}

theorem monthLength_le (year month : Nat) : (monthLengths year)[month]?.getD 0 ≤ 31 := by
  have hall : ∀ length ∈ monthLengths year, length ≤ 31 := by
    simp only [monthLengths]
    split <;> decide
  cases hlength : (monthLengths year)[month]? with
  | none => exact Nat.zero_le 31
  | some length => exact hall length (List.mem_of_getElem? hlength)

theorem IsDay.day_le_31 (h : IsDay year month day) : day ≤ 31 :=
  Nat.le_trans h.day_le (monthLength_le year _)

theorem IsDay.lt_monthStart (h : IsDay year month day) :
    monthStart year (month - 1) + (day - 1) < monthStart year month := by
  have hmonth : month - 1 + 1 = month := Nat.sub_add_cancel h.month_pos
  have hstart := monthStart_succ year (month - 1)
  have hpos := h.day_pos
  have hle := h.day_le
  rw [hmonth] at hstart
  omega

theorem IsDay.lt_yearLength (h : IsDay year month day) :
    monthStart year (month - 1) + (day - 1) < yearLength year := by
  rw [← monthStart_twelve]
  exact Nat.lt_of_lt_of_le h.lt_monthStart (monthStart_le year h.month_le)

/-- **A later date has a greater number.** -/
theorem dayNumber_lt (h : IsDay year month day) (h' : IsDay year' month' day')
    (hlater : year < year' ∨
      year = year' ∧ (month < month' ∨ month = month' ∧ day < day')) :
    dayNumber year month day < dayNumber year' month' day' := by
  have hpos := h.day_pos
  rcases hlater with hyear | ⟨rfl, hmonth | ⟨rfl, hday⟩⟩
  · have hnext : daysBefore year + yearLength year ≤ daysBefore year' := daysBefore_le hyear
    have hin := h.lt_yearLength
    simp only [dayNumber]
    omega
  · have hnext : monthStart year month ≤ monthStart year (month' - 1) :=
      monthStart_le year (by omega)
    have hin := h.lt_monthStart
    simp only [dayNumber]
    omega
  · simp only [dayNumber]
    omega

/-- The epoch is the first of January 1970. -/
theorem epoch_eq : epoch = dayNumber 1970 1 1 := by
  have hyear : (daysBefore 1970 : Int) = 719528 := (yearStart_eq 1970).symm
  have hmonth : monthStart 1970 (1 - 1) = 0 := rfl
  rw [epoch, dayNumber, hmonth]
  omega

theorem ofDay_year (day : Int) : (Date.ofDay day).year = yearOf day := rfl

theorem ofDay_month (day : Int) : (Date.ofDay day).month =
    (monthDay (monthLengths (yearOf day)) (day - yearStart (yearOf day)).toNat).1 + 1 := rfl

theorem ofDay_day (day : Int) : (Date.ofDay day).day =
    (monthDay (monthLengths (yearOf day)) (day - yearStart (yearOf day)).toNat).2 + 1 := rfl

/-- The date of a day is one of the calendar, and the day's number is its own. -/
theorem ofDay_spec {day : Int} (hyear : 0 ≤ (Date.ofDay day).year) :
    IsDay (Date.ofDay day).year.toNat (Date.ofDay day).month (Date.ofDay day).day ∧
      (dayNumber (Date.ofDay day).year.toNat (Date.ofDay day).month (Date.ofDay day).day : Int) =
        day := by
  obtain ⟨year, hyear⟩ : ∃ year : Nat, yearOf day = year := ⟨_, (Int.toNat_of_nonneg hyear).symm⟩
  have hstart := yearStart_le day
  have hend := lt_yearStart day
  have hnext := yearStart_succ year
  rw [hyear] at hstart hend
  have hin : (day - yearStart year).toNat < (monthLengths year).sum := by
    show _ < monthStart year 12
    rw [monthStart_twelve]
    omega
  obtain ⟨hmonth, hday, hlt⟩ := monthDay_spec hin
  rw [ofDay_year, ofDay_month, ofDay_day, hyear, Int.toNat_natCast]
  refine ⟨⟨Nat.succ_pos _, hmonth, Nat.succ_pos _, hlt⟩, ?_⟩
  rw [yearStart_eq] at hstart hday ⊢
  simp only [dayNumber, monthStart, Nat.add_sub_cancel]
  omega

end Flowmeter.Calendar

import Mathlib.Data.String.Basic
import Flowmeter.EventLog.Writer
import Flowmeter.Proofs.EventLog.Days
import Flowmeter.Proofs.Text.Padded

/-! Time stamps stand in the order of time.

A `Clock` is what a stamp shows. `Clock.read?` reads it off a text of the form
`2024-06-10 06:13:20.123`, and `Clock.millis` counts how many milliseconds after the start of 1970
it is. The clock of an instant is one that there is (`Instant.clock_isValid`) and stands at the
millisecond the instant lies in (`Instant.millis_clock`). Of two clocks the one that stands at the
lesser millisecond has the lesser text (`Clock.text_lt`), so stamps are ordered as the milliseconds
that they show (`stamps_sort_by_time`). -/
namespace Flowmeter

/-- A local date and time. -/
structure Clock where
  year : Nat
  month : Nat
  day : Nat
  hour : Nat
  minute : Nat
  second : Nat
  milli : Nat
  deriving DecidableEq

namespace Clock
open Calendar (IsDay dayNumber)
open Text.Numeral (field? padded field?_padded padded_append_lt padded_lt length_padded)

/-! ### Reading a clock -/

/-- The text behind a mark. -/
def mark? (mark : Char) : List Char → Option (List Char)
  | [] => none
  | c :: rest => if c = mark then some rest else none

/-- What a text of the form `YYYY-mm-dd HH:MM:SS.mmm` shows. -/
def read? (text : List Char) : Option Clock := do
  let (year, text) ← field? 4 text
  let (month, text) ← field? 2 (← mark? '-' text)
  let (day, text) ← field? 2 (← mark? '-' text)
  let (hour, text) ← field? 2 (← mark? ' ' text)
  let (minute, text) ← field? 2 (← mark? ':' text)
  let (second, text) ← field? 2 (← mark? ':' text)
  let (milli, text) ← field? 3 (← mark? '.' text)
  if text.isEmpty then some { year, month, day, hour, minute, second, milli } else none

/-- There is such a date and such a time of day, and the year has four digits. -/
structure IsValid (clock : Clock) : Prop where
  year : clock.year < 10000
  date : IsDay clock.year clock.month clock.day
  hour : clock.hour < 24
  minute : clock.minute < 60
  second : clock.second < 60
  milli : clock.milli < 1000

/-- How many milliseconds the day has had. -/
def timeOfDay (clock : Clock) : Nat :=
  ((clock.hour * 60 + clock.minute) * 60 + clock.second) * 1000 + clock.milli

/-- How many milliseconds the clock is after the start of 1970. -/
def millis (clock : Clock) : Int :=
  ((dayNumber clock.year clock.month clock.day : Int) - dayNumber 1970 1 1) * 86400000 +
    clock.timeOfDay

/-! ### Writing a clock -/

/-- The time of day behind a date. -/
def timeText (clock : Clock) : List Char :=
  ' ' :: ((padded 2 clock.hour).toList ++ ':' :: ((padded 2 clock.minute).toList ++
    ':' :: ((padded 2 clock.second).toList ++ '.' :: (padded 3 clock.milli).toList)))

def text (clock : Clock) : List Char :=
  (padded 4 clock.year).toList ++ '-' :: ((padded 2 clock.month).toList ++
    '-' :: ((padded 2 clock.day).toList ++ clock.timeText))

variable {clock earlier later : Clock}

theorem IsValid.year_lt (h : clock.IsValid) : clock.year < 10 ^ 4 := h.year

theorem IsValid.month_lt (h : clock.IsValid) : clock.month < 10 ^ 2 :=
  Nat.lt_of_le_of_lt h.date.month_le (by decide)

theorem IsValid.day_lt (h : clock.IsValid) : clock.day < 10 ^ 2 :=
  Nat.lt_of_le_of_lt h.date.day_le_31 (by decide)

theorem IsValid.hour_lt (h : clock.IsValid) : clock.hour < 10 ^ 2 := Nat.lt_trans h.hour (by decide)

theorem IsValid.minute_lt (h : clock.IsValid) : clock.minute < 10 ^ 2 :=
  Nat.lt_trans h.minute (by decide)

theorem IsValid.second_lt (h : clock.IsValid) : clock.second < 10 ^ 2 :=
  Nat.lt_trans h.second (by decide)

theorem IsValid.milli_lt (h : clock.IsValid) : clock.milli < 10 ^ 3 := h.milli

theorem length_text (h : clock.IsValid) : clock.text.length = 23 := by
  have hyear := length_padded (by decide) h.year_lt
  have hmonth := length_padded (by decide) h.month_lt
  have hday := length_padded (by decide) h.day_lt
  have hhour := length_padded (by decide) h.hour_lt
  have hminute := length_padded (by decide) h.minute_lt
  have hsecond := length_padded (by decide) h.second_lt
  have hmilli := length_padded (by decide) h.milli_lt
  simp only [text, timeText, List.length_append, List.length_cons]
  omega

section Steps
variable {α : Type}

theorem bind_mark (mark : Char) (rest : List Char) (next : List Char → Option α) :
    (mark? mark (mark :: rest) >>= next) = next rest := by
  rw [mark?, if_pos rfl]
  rfl

theorem bind_field {width value : Nat} (hwidth : 0 < width) (h : value < 10 ^ width)
    (rest : List Char) (next : Nat × List Char → Option α) :
    (field? width ((padded width value).toList ++ rest) >>= next) = next (value, rest) := by
  rw [field?_padded hwidth h]
  rfl

end Steps

/-- **A clock is read off its text.** -/
theorem read?_text (h : clock.IsValid) : read? clock.text = some clock := by
  refine (bind_field (by decide) h.year_lt _ _).trans ?_
  refine (bind_mark '-' _ _).trans ((bind_field (by decide) h.month_lt _ _).trans ?_)
  refine (bind_mark '-' _ _).trans ((bind_field (by decide) h.day_lt _ _).trans ?_)
  refine (bind_mark ' ' _ _).trans ((bind_field (by decide) h.hour_lt _ _).trans ?_)
  refine (bind_mark ':' _ _).trans ((bind_field (by decide) h.minute_lt _ _).trans ?_)
  refine (bind_mark ':' _ _).trans ((bind_field (by decide) h.second_lt _ _).trans ?_)
  refine (bind_mark '.' _ _).trans ?_
  rw [← List.append_nil (padded 3 clock.milli).toList]
  exact bind_field (by decide) h.milli_lt [] _

/-! ### Order -/

theorem mark_lt {mark : Char} {s t : List Char} (h : s < t) : mark :: s < mark :: t :=
  List.cons_lt_cons_iff.2 (.inr ⟨rfl, h⟩)

theorem timeOfDay_lt (h : clock.IsValid) : clock.timeOfDay < 86400000 := by
  obtain ⟨-, -, hhour, hminute, hsecond, hmilli⟩ := h
  simp only [timeOfDay]
  omega

/-- Of two times of day the hours decide, then the minutes, and so on. -/
theorem before_of_timeOfDay_lt (he : earlier.IsValid) (hl : later.IsValid)
    (h : earlier.timeOfDay < later.timeOfDay) :
    earlier.hour < later.hour ∨ earlier.hour = later.hour ∧
      (earlier.minute < later.minute ∨ earlier.minute = later.minute ∧
        (earlier.second < later.second ∨ earlier.second = later.second ∧
          earlier.milli < later.milli)) := by
  obtain ⟨-, -, -, hminute, hsecond, hmilli⟩ := he
  obtain ⟨-, -, -, hminute', hsecond', hmilli'⟩ := hl
  simp only [timeOfDay] at h
  omega

theorem eq_of_timeOfDay_eq {other : Clock} (hc : clock.IsValid) (ho : other.IsValid)
    (h : clock.timeOfDay = other.timeOfDay) :
    clock.hour = other.hour ∧ clock.minute = other.minute ∧ clock.second = other.second ∧
      clock.milli = other.milli := by
  obtain ⟨-, -, -, hminute, hsecond, hmilli⟩ := hc
  obtain ⟨-, -, -, hminute', hsecond', hmilli'⟩ := ho
  simp only [timeOfDay] at h
  omega

/-- Dates in the wrong order would have numbers in the wrong order. -/
theorem not_before_of_dayNumber_le (he : earlier.IsValid) (hl : later.IsValid)
    (h : dayNumber earlier.year earlier.month earlier.day ≤
      dayNumber later.year later.month later.day) :
    ¬(later.year < earlier.year ∨ later.year = earlier.year ∧ (later.month < earlier.month ∨
      later.month = earlier.month ∧ later.day < earlier.day)) := fun hwrong =>
  Nat.not_lt.2 h (Calendar.dayNumber_lt hl.date he.date hwrong)

theorem eq_of_dayNumber_eq {other : Clock} (hc : clock.IsValid) (ho : other.IsValid)
    (h : dayNumber clock.year clock.month clock.day =
      dayNumber other.year other.month other.day) :
    clock.year = other.year ∧ clock.month = other.month ∧ clock.day = other.day := by
  have hbefore := not_before_of_dayNumber_le hc ho (Nat.le_of_eq h)
  have hbehind := not_before_of_dayNumber_le ho hc (Nat.le_of_eq h.symm)
  omega

/-- Of two clocks the years decide, then the months, and so on. -/
theorem before_of_millis_lt (he : earlier.IsValid) (hl : later.IsValid)
    (h : earlier.millis < later.millis) :
    earlier.year < later.year ∨ earlier.year = later.year ∧
      (earlier.month < later.month ∨ earlier.month = later.month ∧
        (earlier.day < later.day ∨ earlier.day = later.day ∧
          earlier.timeOfDay < later.timeOfDay)) := by
  have hearlier := timeOfDay_lt he
  have hlater := timeOfDay_lt hl
  simp only [millis] at h
  have hdate := not_before_of_dayNumber_le he hl (by omega)
  by_cases hsame : earlier.year = later.year ∧ earlier.month = later.month ∧
      earlier.day = later.day
  · obtain ⟨hyear, hmonth, hday⟩ := hsame
    rw [hyear, hmonth, hday] at h
    omega
  · omega

/-- A clock is told by the millisecond at which it stands. -/
theorem eq_of_millis_eq {other : Clock} (hc : clock.IsValid) (ho : other.IsValid)
    (h : clock.millis = other.millis) : clock = other := by
  have hclock := timeOfDay_lt hc
  have hother := timeOfDay_lt ho
  simp only [millis] at h
  obtain ⟨hyear, hmonth, hday⟩ := eq_of_dayNumber_eq hc ho (by omega)
  obtain ⟨hhour, hminute, hsecond, hmilli⟩ := eq_of_timeOfDay_eq hc ho (by omega)
  cases clock
  cases other
  simp_all only

/-- A later time of day has the greater text. -/
theorem timeText_lt (he : earlier.IsValid) (hl : later.IsValid)
    (h : earlier.timeOfDay < later.timeOfDay) : earlier.timeText < later.timeText := by
  have h := before_of_timeOfDay_lt he hl h
  refine mark_lt (padded_append_lt (by decide) he.hour_lt hl.hour_lt ?_)
  obtain hhour | ⟨hhour, h⟩ := h
  · exact .inl hhour
  refine .inr ⟨hhour, mark_lt (padded_append_lt (by decide) he.minute_lt hl.minute_lt ?_)⟩
  obtain hminute | ⟨hminute, h⟩ := h
  · exact .inl hminute
  refine .inr ⟨hminute, mark_lt (padded_append_lt (by decide) he.second_lt hl.second_lt ?_)⟩
  obtain hsecond | ⟨hsecond, hmilli⟩ := h
  · exact .inl hsecond
  exact .inr ⟨hsecond, mark_lt (padded_lt (by decide) he.milli_lt hl.milli_lt hmilli)⟩

/-- **A clock that stands at a later millisecond has the greater text.** -/
theorem text_lt (he : earlier.IsValid) (hl : later.IsValid) (h : earlier.millis < later.millis) :
    earlier.text < later.text := by
  have h := before_of_millis_lt he hl h
  refine padded_append_lt (by decide) he.year_lt hl.year_lt ?_
  obtain hyear | ⟨hyear, h⟩ := h
  · exact .inl hyear
  refine .inr ⟨hyear, mark_lt (padded_append_lt (by decide) he.month_lt hl.month_lt ?_)⟩
  obtain hmonth | ⟨hmonth, h⟩ := h
  · exact .inl hmonth
  refine .inr ⟨hmonth, mark_lt (padded_append_lt (by decide) he.day_lt hl.day_lt ?_)⟩
  obtain hday | ⟨hday, htime⟩ := h
  · exact .inl hday
  exact .inr ⟨hday, timeText_lt he hl htime⟩

end Clock

/-! ### Instants -/

namespace Instant

/-- Nanoseconds since the start of 1970, universal time. -/
def time (instant : Instant) : Int := instant.secs * 1000000000 + instant.nanos

/-- An instant outside leap seconds in a local year of four digits. -/
structure IsCommon (instant : Instant) : Prop where
  nanos : instant.nanos < 1000000000
  year_nonneg : 0 ≤ instant.date.year
  year_le : instant.date.year ≤ 9999

/-- What the clock shows at an instant. -/
def clock (instant : Instant) : Clock where
  year := instant.date.year.toNat
  month := instant.date.month
  day := instant.date.day
  hour := instant.secondOfDay / 3600
  minute := instant.secondOfDay / 60 % 60
  second := instant.secondOfDay % 60
  milli := instant.nanos / 1000000

variable {instant : Instant}

theorem secondOfDay_lt (instant : Instant) : instant.secondOfDay < 86400 := by
  unfold secondOfDay
  omega

theorem clock_isValid (h : instant.IsCommon) : instant.clock.IsValid where
  year := by
    have hlow := h.year_nonneg
    have hhigh := h.year_le
    show instant.date.year.toNat < 10000
    omega
  date := (Calendar.ofDay_spec h.year_nonneg).1
  hour := Nat.div_lt_of_lt_mul instant.secondOfDay_lt
  minute := Nat.mod_lt _ (by decide)
  second := Nat.mod_lt _ (by decide)
  milli := Nat.div_lt_of_lt_mul h.nanos

theorem timeOfDay_clock (instant : Instant) :
    instant.clock.timeOfDay = instant.secondOfDay * 1000 + instant.nanos / 1000000 := by
  simp only [Clock.timeOfDay, clock]
  omega

/-- **The clock stands at the millisecond in which the instant lies.** -/
theorem millis_clock (h : instant.IsCommon) :
    instant.clock.millis = instant.time / 1000000 + 1000 * instant.offset := by
  have hnumber :
      (Calendar.dayNumber instant.clock.year instant.clock.month instant.clock.day : Int) =
        instant.localSecs / 86400 + Calendar.epoch := (Calendar.ofDay_spec h.year_nonneg).2
  rw [Clock.millis, hnumber, ← Calendar.epoch_eq, timeOfDay_clock, time, secondOfDay, localSecs]
  omega

/-- A stamp is what the clock shows. -/
theorem toList_stamp (h : instant.IsCommon) : instant.stamp.toList = instant.clock.text := by
  have hsecond : instant.secondOfMinute = instant.secondOfDay % 60 := by
    rw [secondOfMinute, Nat.div_eq_of_lt h.nanos, Nat.add_zero]
  have hmillis : instant.millis = instant.nanos / 1000000 := by
    rw [millis, Nat.mod_eq_of_lt h.nanos]
  have hyear : yearText instant.date.year = Text.Numeral.padded 4 instant.date.year.toNat := by
    have hlow := h.year_nonneg
    have hhigh := h.year_le
    rw [yearText, if_neg (by omega), if_neg (by omega)]
    congr 1
    omega
  have hdash : "-".toList = ['-'] := rfl
  have hblank : " ".toList = [' '] := rfl
  have hcolon : ":".toList = [':'] := rfl
  have hpoint : ".".toList = ['.'] := rfl
  simp only [stamp, Clock.text, Clock.timeText, clock, hsecond, hmillis, hyear, hdash, hblank,
    hcolon, hpoint, String.toList_append, List.append_assoc, List.cons_append, List.nil_append]

end Instant

/-! ### Stamps -/

/-- The line of an entry begins with the stamp, and the stamp shows the millisecond in which the
event happened. -/
structure LogEntry.HasStamp (entry : LogEntry) (names : Names) (stamp : String) : Prop where
  line : entry.line names = stamp ++ " " ++ entry.event.describe names
  length : stamp.length = 23
  shows : ∃ clock, Clock.read? stamp.toList = some clock ∧ clock.IsValid ∧
    (clock.millis - 1000 * entry.instant.offset) * 1000000 ≤ entry.instant.time ∧
    entry.instant.time < (clock.millis - 1000 * entry.instant.offset + 1) * 1000000

theorem LogEntry.hasStamp {entry : LogEntry} (h : entry.instant.IsCommon) (names : Names) :
    entry.HasStamp names entry.instant.stamp where
  line := rfl
  length := by
    rw [← String.length_toList, Instant.toList_stamp h, Clock.length_text (Instant.clock_isValid h)]
  shows := by
    have hvalid := Instant.clock_isValid h
    refine ⟨entry.instant.clock, ?_, hvalid, ?_⟩
    · rw [Instant.toList_stamp h, Clock.read?_text hvalid]
    · rw [Instant.millis_clock h]
      omega

namespace Instant
variable {first second : Instant}

/-- The stamp of a later millisecond is the greater one. -/
theorem stamp_lt (hoffset : first.offset = second.offset) (hfirst : first.IsCommon)
    (hsecond : second.IsCommon) (h : first.time / 1000000 < second.time / 1000000) :
    first.stamp < second.stamp := by
  rw [String.lt_iff_toList_lt, toList_stamp hfirst, toList_stamp hsecond]
  refine Clock.text_lt (clock_isValid hfirst) (clock_isValid hsecond) ?_
  rw [millis_clock hfirst, millis_clock hsecond, hoffset]
  exact Int.add_lt_add_right h _

/-- Instants of one millisecond have one stamp. -/
theorem stamp_eq (hoffset : first.offset = second.offset) (hfirst : first.IsCommon)
    (hsecond : second.IsCommon) (h : first.time / 1000000 = second.time / 1000000) :
    first.stamp = second.stamp := by
  have hclock : first.clock = second.clock := by
    refine Clock.eq_of_millis_eq (clock_isValid hfirst) (clock_isValid hsecond) ?_
    rw [millis_clock hfirst, millis_clock hsecond, hoffset, h]
  rw [← String.toList_inj, toList_stamp hfirst, toList_stamp hsecond, hclock]

end Instant

/-- **Stamps stand in the order of time.** The line of an event begins with a stamp of 23
characters that shows a date and a time of day, and those are of the millisecond in which the
event happened, so of none after it. Of two events with one offset, the one that is not later has
no greater stamp, and the stamps are the same exactly if the events happened in the same
millisecond. -/
theorem stamps_sort_by_time (first second : LogEntry) (names : Names)
    (hoffset : first.instant.offset = second.instant.offset)
    (hfirst : first.instant.IsCommon) (hsecond : second.instant.IsCommon) :
    ∃ stamp stamp', first.HasStamp names stamp ∧ second.HasStamp names stamp' ∧
      (first.instant.time ≤ second.instant.time → stamp ≤ stamp') ∧
      (stamp = stamp' ↔ first.instant.time / 1000000 = second.instant.time / 1000000) := by
  refine ⟨_, _, LogEntry.hasStamp hfirst names, LogEntry.hasStamp hsecond names, fun h => ?_, ?_⟩
  · have hmillis := Int.ediv_le_ediv (show (0 : Int) < 1000000 by decide) h
    rcases Int.lt_or_eq_of_le hmillis with hlt | heq
    · exact le_of_lt (Instant.stamp_lt hoffset hfirst hsecond hlt)
    · exact le_of_eq (Instant.stamp_eq hoffset hfirst hsecond heq)
  · constructor
    · intro h
      rcases Int.lt_trichotomy (first.instant.time / 1000000) (second.instant.time / 1000000) with
        hlt | heq | hgt
      · exact absurd h (ne_of_lt (Instant.stamp_lt hoffset hfirst hsecond hlt))
      · exact heq
      · exact absurd h.symm
          (ne_of_lt (Instant.stamp_lt hoffset.symm hsecond hfirst hgt))
    · exact Instant.stamp_eq hoffset hfirst hsecond

section Leap

/-- A packet that was sent by nobody known. -/
def lost : Event where
  kind := .unmappedSend
  packet := ⟨.quad 10 0 0 1, .quad 10 0 0 2, 40000, 53, 60, .udp, 0⟩

/-- The last nanosecond of a leap day, an hour ahead of universal time. -/
def leapDayEnds : LogEntry := ⟨lost, -11670915601, 999999999, 3600⟩

/-- The nanosecond after. -/
def marchBegins : LogEntry := ⟨lost, -11670915600, 0, 3600⟩

theorem isCommon_leapDayEnds : leapDayEnds.instant.IsCommon :=
  ⟨by decide, by decide, by decide⟩

theorem isCommon_marchBegins : marchBegins.instant.IsCommon :=
  ⟨by decide, by decide, by decide⟩

example : leapDayEnds.instant.stamp = "1600-02-29 23:59:59.999" := by decide +kernel

theorem stamps_sort_around_leap_day :
    ∃ stamp stamp', leapDayEnds.HasStamp .numeric stamp ∧ marchBegins.HasStamp .numeric stamp' ∧
      stamp ≤ stamp' ∧ stamp ≠ stamp' := by
  obtain ⟨stamp, stamp', hleap, hmarch, hle, hsame⟩ := stamps_sort_by_time leapDayEnds marchBegins
    .numeric rfl isCommon_leapDayEnds isCommon_marchBegins
  exact ⟨stamp, stamp', hleap, hmarch, hle (by decide), fun h => absurd (hsame.1 h) (by decide)⟩

end Leap

end Flowmeter

/-!
# Calendar dates

Dates of the Gregorian calendar, continued backwards over the year 0 and the
years before it.

## Main definitions

* `Date` — a year, a month and a day of that month.
* `Date.dayNumber` — the days since the first of January 1970.
* `Date.next`, `Date.previous` — the neighbouring days.

## Main results

* `Date.dayNumber_next`, `Date.dayNumber_previous` — neighbours are one day apart.
-/

namespace SmartPlaylist

namespace Calendar

/-- Every fourth year is a leap year, except the hundredth, except the four hundredth. -/
def isLeap (year : Int) : Bool := year % 4 == 0 && (year % 100 != 0 || year % 400 == 0)

/-- How many days a month of that year has; months are counted from 1. -/
def monthLength (year : Int) : Nat → Nat
  | 2 => if isLeap year then 29 else 28
  | 4 => 30
  | 6 => 30
  | 9 => 30
  | 11 => 30
  | _ => 31

/-- How many days of the year lie before the month. -/
def daysBeforeMonth (year : Int) : Nat → Nat
  | 0 => 0
  | 1 => 0
  | month + 2 => daysBeforeMonth year (month + 1) + monthLength year (month + 1)

/-- How many days lie between the start of the year 1 and the start of that year. -/
def daysBeforeYear (year : Int) : Int :=
  365 * (year - 1) + (year - 1) / 4 - (year - 1) / 100 + (year - 1) / 400

/-- The day number of the first of January 1970 counted from the start of the year 1. -/
def epoch : Int := 719162

theorem monthLength_pos (year : Int) (month : Nat) : 28 ≤ monthLength year month := by
  unfold monthLength
  split <;> try decide
  split <;> decide

/-- A year is 365 days long, or 366 in a leap year. -/
theorem daysBeforeYear_succ (year : Int) :
    daysBeforeYear (year + 1) = daysBeforeYear year + (if isLeap year then 366 else 365) := by
  unfold daysBeforeYear isLeap
  by_cases h4 : year % 4 = 0 <;> by_cases h100 : year % 100 = 0 <;>
    by_cases h400 : year % 400 = 0 <;> simp [h4, h100, h400] <;> omega

theorem daysBeforeMonth_december (year : Int) :
    daysBeforeMonth year 12 + 31 = if isLeap year then 366 else 365 := by
  simp only [daysBeforeMonth, monthLength]
  split <;> rfl

end Calendar

open Calendar

/-- A day of the calendar. -/
structure Date where
  year : Int
  month : Nat
  day : Nat
  month_pos : 1 ≤ month
  month_le : month ≤ 12
  day_pos : 1 ≤ day
  day_le : day ≤ monthLength year month
  deriving DecidableEq, Repr

namespace Date

/-- The date of those numbers, if there is one. -/
def ofNumbers? (year : Int) (month day : Nat) : Option Date :=
  if h : (1 ≤ month ∧ month ≤ 12) ∧ (1 ≤ day ∧ day ≤ monthLength year month) then
    some ⟨year, month, day, h.1.1, h.1.2, h.2.1, h.2.2⟩
  else none

/-- The days since the first of January 1970, negative before it. -/
def dayNumber (d : Date) : Int :=
  daysBeforeYear d.year + daysBeforeMonth d.year d.month + d.day - 1 - epoch

/-- The day after. -/
def next (d : Date) : Date :=
  if h : d.day < monthLength d.year d.month then
    ⟨d.year, d.month, d.day + 1, d.month_pos, d.month_le, by omega, h⟩
  else if h : d.month < 12 then
    ⟨d.year, d.month + 1, 1, by omega, by omega, by omega,
      Nat.le_trans (by decide) (monthLength_pos _ _)⟩
  else ⟨d.year + 1, 1, 1, by omega, by omega, by omega,
      Nat.le_trans (by decide) (monthLength_pos _ _)⟩

/-- The day before. -/
def previous (d : Date) : Date :=
  if h : 1 < d.day then
    ⟨d.year, d.month, d.day - 1, d.month_pos, d.month_le, by omega,
      Nat.le_trans (Nat.sub_le _ _) d.day_le⟩
  else if h : 1 < d.month then
    ⟨d.year, d.month - 1, monthLength d.year (d.month - 1), by omega,
      Nat.le_trans (Nat.sub_le _ _) d.month_le,
      Nat.le_trans (by decide) (monthLength_pos _ _), Nat.le_refl _⟩
  else ⟨d.year - 1, 12, 31, by omega, by omega, by omega, Nat.le_refl _⟩

theorem dayNumber_next (d : Date) : d.next.dayNumber = d.dayNumber + 1 := by
  obtain ⟨year, month, day, hm, hm', hd, hd'⟩ := d
  unfold next
  split
  · simp only [dayNumber]; omega
  next h =>
    split
    next h' =>
      obtain ⟨m, rfl⟩ := Nat.exists_eq_add_of_le' hm
      simp only [dayNumber, daysBeforeMonth] at *
      omega
    next h' =>
      have : month = 12 := by simp only at h'; omega
      subst this
      have hy := daysBeforeYear_succ year
      have hdec := daysBeforeMonth_december year
      have hlen : day = 31 := by simp only [monthLength] at h hd'; omega
      simp only [dayNumber, daysBeforeMonth.eq_2] at *
      split at hy <;> split at hdec <;> first | omega | simp_all

theorem dayNumber_previous (d : Date) : d.previous.dayNumber = d.dayNumber - 1 := by
  obtain ⟨year, month, day, hm, hm', hd, hd'⟩ := d
  unfold previous
  split
  next h => simp only [dayNumber] at *; omega
  next h =>
    split
    next h' =>
      simp only at h h'
      obtain ⟨m, rfl⟩ := Nat.exists_eq_add_of_le' (show 2 ≤ month by omega)
      simp only [dayNumber, daysBeforeMonth, show m + 2 - 1 = m + 1 from rfl] at *
      omega
    next h' =>
      simp only at h h'
      have : month = 1 := by omega
      subst this
      have hy := daysBeforeYear_succ (year - 1)
      have hdec := daysBeforeMonth_december (year - 1)
      simp only [Int.sub_add_cancel] at hy
      simp only [dayNumber, daysBeforeMonth.eq_2] at *
      split at hy <;> split at hdec <;> first | omega | simp_all

/-- The day that many days after the first of January 1970. -/
def ofDayNumber : Nat → Date
  | 0 => ⟨1970, 1, 1, by decide, by decide, by decide, by decide⟩
  | n + 1 => (ofDayNumber n).next

theorem dayNumber_ofDayNumber (n : Nat) : (ofDayNumber n).dayNumber = n := by
  induction n with
  | zero => decide
  | succ n ih => rw [ofDayNumber, dayNumber_next, ih]; rfl

end Date

end SmartPlaylist

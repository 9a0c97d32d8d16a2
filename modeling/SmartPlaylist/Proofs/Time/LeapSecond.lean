import SmartPlaylist.Proofs.Time.Calendar

/-!
# Differences around leap seconds

The difference of two moments adds that of their dates, at 24 hours a day, to that of their times of
day.  A leap second is counted in the second part alone, and only if it lies between the two times
of day.  So the difference grows as time goes on, with one exception: when a day that ends in a leap
second is over, that second is no longer counted, and the difference falls back by as much.

A difference that was more than so many days then stays so, unless it is the very second around the
turn of the day that decides.

## Main definitions

* `Moment.clockSince` — the difference of two times of day.
* `Moment.TurnsBack` — a difference of more than so many days falls back to no more than those.

## Main results

* `Moment.clockSince_pos_iff` — the sign of the second part.
* `Moment.lt_clockSince_iff`, `Moment.clockSince_le_iff` — when it reaches beyond a day.
* `Moment.turnsBack_iff` — **the only differences that fall back.**
-/

namespace SmartPlaylist.Moment

variable {now later earlier played : Moment}

/-- The nanoseconds of a day without leap seconds. -/
def dayNanos : Int := 86400 * nanosPerSecond

/-- The nanoseconds from one time of day to another. -/
def clockSince (later earlier : Moment) : Int :=
  (later.second - earlier.second + leapAdjustment later earlier) * nanosPerSecond +
    later.nano - earlier.nano

/-- A time of day is before another. -/
def ClockBefore (a b : Moment) : Prop :=
  a.second < b.second ∨ a.second = b.second ∧ a.nano < b.nano

/-- A difference has a part for the dates and one for the times of day. -/
theorem since_eq (later earlier : Moment) :
    later.since earlier = (later.date.dayNumber - earlier.date.dayNumber) * dayNanos +
      clockSince later earlier := by
  unfold since clockSince dayNanos nanosPerSecond
  omega

/-! ### Times of day -/

/-- How a leap second of either time of day counts. -/
theorem clockSince_cases (later earlier : Moment) :
    ∃ adjustment : Int, clockSince later earlier =
        (later.second - earlier.second + adjustment) * 1_000_000_000 + later.nano - earlier.nano ∧
      (earlier.second < later.second ∧ earlier.nano < 1_000_000_000 ∧ adjustment = 0 ∨
        earlier.second < later.second ∧ 1_000_000_000 ≤ earlier.nano ∧ adjustment = 1 ∨
        later.second < earlier.second ∧ later.nano < 1_000_000_000 ∧ adjustment = 0 ∨
        later.second < earlier.second ∧ 1_000_000_000 ≤ later.nano ∧ adjustment = -1 ∨
        later.second = earlier.second ∧ adjustment = 0) := by
  refine ⟨leapAdjustment later earlier, rfl, ?_⟩
  unfold leapAdjustment isLeapSecond nanosPerSecond
  simp only [decide_eq_true_eq]
  split
  · split <;> omega
  · split
    · split <;> omega
    · omega

/-- The difference of two times of day tells which one is before the other. -/
theorem clockSince_pos_iff : 0 < clockSince later earlier ↔ earlier.ClockBefore later := by
  have hlater := later.nano_lt
  have hearlier := earlier.nano_lt
  obtain ⟨adjustment, hclock, hcases⟩ := clockSince_cases later earlier
  rw [hclock]
  unfold ClockBefore
  omega

/-- Two times of day are less than two days apart. -/
theorem clockSince_lt (later earlier : Moment) :
    -(2 * dayNanos) < clockSince later earlier ∧ clockSince later earlier < 2 * dayNanos := by
  have hday : dayNanos = 86_400_000_000_000 := rfl
  have hlater := later.nano_lt
  have hearlier := earlier.nano_lt
  have hsecond := later.second_lt
  have hsecond' := earlier.second_lt
  obtain ⟨adjustment, hclock, hcases⟩ := clockSince_cases later earlier
  rw [hday, hclock]
  omega

/-- From the first second of a day to the leap second that ends it, it may be more than a day. -/
theorem lt_clockSince_iff :
    dayNanos < clockSince later earlier ↔
      earlier.second = 0 ∧ later.second = 86399 ∧ earlier.nano + nanosPerSecond < later.nano := by
  have hday : dayNanos = 86_400_000_000_000 := rfl
  have hnanos : nanosPerSecond = 1_000_000_000 := rfl
  have hlater := later.nano_lt
  have hsecond := later.second_lt
  -- a leap second ends a minute, so none is near the other end of a day
  have hends := earlier.leap_ends_minute
  have hends' := later.leap_ends_minute
  obtain ⟨adjustment, hclock, hcases⟩ := clockSince_cases later earlier
  rw [hday, hnanos, hclock]
  omega

/-- And back it may be a day or more. -/
theorem clockSince_le_iff :
    clockSince later earlier ≤ -dayNanos ↔
      earlier.second = 86399 ∧ later.second = 0 ∧ later.nano + nanosPerSecond ≤ earlier.nano := by
  have hday : dayNanos = 86_400_000_000_000 := rfl
  have hnanos : nanosPerSecond = 1_000_000_000 := rfl
  have hearlier := earlier.nano_lt
  have hsecond := earlier.second_lt
  have hends := later.leap_ends_minute
  obtain ⟨adjustment, hclock, hcases⟩ := clockSince_cases later earlier
  rw [hday, hnanos, hclock]
  omega

/-! ### More than so many days -/

/-- A difference is of more than so many days when the later date is further on than that.  Of the
dates around that one, the same number of days on the times of day decide; a day short of it only a
leap second is enough, and a day past it only an earlier leap second is too late. -/
theorem lt_since_iff {days : Int} :
    days * dayNanos < later.since earlier ↔
      earlier.date.dayNumber + days + 1 < later.date.dayNumber ∨
      later.date.dayNumber = earlier.date.dayNumber + days + 1 ∧
        ¬(earlier.second = 86399 ∧ later.second = 0 ∧
          later.nano + nanosPerSecond ≤ earlier.nano) ∨
      later.date.dayNumber = earlier.date.dayNumber + days ∧ earlier.ClockBefore later ∨
      later.date.dayNumber + 1 = earlier.date.dayNumber + days ∧
        earlier.second = 0 ∧ later.second = 86399 ∧
          earlier.nano + nanosPerSecond < later.nano := by
  obtain ⟨hlower, hupper⟩ := clockSince_lt later earlier
  rw [since_eq, ← clockSince_pos_iff, ← lt_clockSince_iff, ← clockSince_le_iff]
  have hday : dayNanos = 86_400_000_000_000 := rfl
  rw [hday] at hlower hupper ⊢
  omega

/-! ### Differences that fall back -/

/-- The moment `now` is in the leap second that ends a day, and `later` is in the first second of
the next day.  Counted from the start of 1970, `now` is more than so many days after `played`, and
`later` is not. -/
structure TurnsBack (days : Int) (played now later : Moment) : Prop where
  now_second : now.second = 86399
  later_second : later.second = 0
  later_date : later.date = now.date.next
  now_past : played.unixNanos + days * dayNanos < now.unixNanos
  later_not_past : later.unixNanos ≤ played.unixNanos + days * dayNanos

theorem turnsBack_iff_dayNumber {days : Int} :
    TurnsBack days played now later ↔ now.second = 86399 ∧ later.second = 0 ∧
      later.date.dayNumber = now.date.dayNumber + 1 ∧
      played.unixNanos + days * dayNanos < now.unixNanos ∧
      later.unixNanos ≤ played.unixNanos + days * dayNanos := by
  have hnext : later.date = now.date.next ↔ later.date.dayNumber = now.date.dayNumber + 1 := by
    rw [← Date.dayNumber_next]
    exact ⟨congrArg _, Date.dayNumber_injective⟩
  rw [← hnext]
  constructor
  · rintro ⟨hnow, hlater, hdate, hpast, hnot⟩
    exact ⟨hnow, hlater, hdate, hpast, hnot⟩
  · rintro ⟨hnow, hlater, hdate, hpast, hnot⟩
    exact ⟨hnow, hlater, hdate, hpast, hnot⟩

/-- **The only differences that fall back.** -/
theorem turnsBack_iff {days : Int} (hle : now ≤ later) :
    days * dayNanos < now.since played ∧ ¬days * dayNanos < later.since played ↔
      TurnsBack days played now later := by
  have hrank : (now.date.dayNumber * 86400 + now.second) * 2_000_000_000 + now.nano ≤
      (later.date.dayNumber * 86400 + later.second) * 2_000_000_000 + later.nano := hle
  have hnow := now.second_lt
  have hnow' := now.nano_lt
  have hlater := later.second_lt
  have hlater' := later.nano_lt
  have hplayed := played.second_lt
  have hplayed' := played.nano_lt
  have hends := played.leap_ends_minute
  have hends' := later.leap_ends_minute
  rw [lt_since_iff, lt_since_iff, turnsBack_iff_dayNumber]
  simp only [ClockBefore, unixNanos, unixSeconds, dayNanos, nanosPerSecond]
  constructor
  · rintro ⟨hpast, hnot⟩
    have hdate : now.date.dayNumber ≤ later.date.dayNumber := by
      clear hpast hnot
      omega
    rw [not_or, not_or, not_or] at hnot
    obtain ⟨hdates, hback, hclock, hforth⟩ := hnot
    -- by how many more days the dates differ decides, and `later` has the later date
    rcases hpast with hpast | ⟨hpast, hnotBack⟩ | ⟨hpast, hbefore⟩ | ⟨hpast, hfirst, hlast, hleap⟩
    · exact absurd (Int.lt_of_lt_of_le hpast hdate) hdates
    · clear hclock hforth
      omega
    · omega
    · omega
  · rintro ⟨hturn, hfirst, hdate, hpast, hnot⟩
    omega

end SmartPlaylist.Moment

import SmartPlaylist.Time.Moment

/-!
# The order of dates and moments

Counting days keeps the order of dates: a month ends before the next one starts, and so does a year.
So dates with the same day number are the same, and the rank of a moment tells it apart from all
others.  Away from leap seconds the difference of two moments is that of their distances from the
start of 1970.

## Main definitions

* `Date.Before` — by year, then by month, then by day.
* `Moment.Before` — by date, then by time of day.

## Main results

* `Date.dayNumber_lt_iff`, `Date.dayNumber_injective` — **day numbers are in the order of dates.**
* `Moment.rank_lt_iff`, `Moment.rank_injective` — ranks are in the order of moments.
* `Moment.since_eq_of_not_leap` — differences away from leap seconds.
-/

namespace SmartPlaylist

namespace Calendar

/-- The days of a year. -/
def yearLength (year : Int) : Nat := if isLeap year then 366 else 365

theorem monthLength_le (year : Int) (month : Nat) : monthLength year month ≤ 31 := by
  unfold monthLength
  split <;> try decide
  split <;> decide

theorem daysBeforeYear_mono {y z : Int} (h : y ≤ z) : daysBeforeYear y ≤ daysBeforeYear z := by
  unfold daysBeforeYear
  omega

/-- A year ends before a later one starts. -/
theorem daysBeforeYear_add_yearLength_le {y z : Int} (h : y < z) :
    daysBeforeYear y + yearLength y ≤ daysBeforeYear z := by
  have hsucc : daysBeforeYear (y + 1) = daysBeforeYear y + yearLength y := by
    rw [daysBeforeYear_succ, yearLength]
    split <;> rfl
  rw [← hsucc]
  exact daysBeforeYear_mono h

/-- A month ends before a later one of the same year starts. -/
theorem daysBeforeMonth_add_monthLength_le (year : Int) {m n : Nat} (hm : 1 ≤ m) (h : m < n) :
    daysBeforeMonth year m + monthLength year m ≤ daysBeforeMonth year n := by
  induction n with
  | zero => omega
  | succ n ih =>
    obtain ⟨k, rfl⟩ : ∃ k, n = k + 1 := ⟨n - 1, by omega⟩
    rw [daysBeforeMonth]
    rcases Nat.lt_or_ge m (k + 1) with hlt | hge
    · have := ih hlt
      omega
    · have : m = k + 1 := by omega
      subst this
      exact Nat.le_refl _

/-- Every month ends within the year. -/
theorem daysBeforeMonth_add_monthLength_le_yearLength (year : Int) {m : Nat} (hm : 1 ≤ m)
    (hm' : m ≤ 12) : daysBeforeMonth year m + monthLength year m ≤ yearLength year := by
  have hdec : daysBeforeMonth year 12 + 31 = yearLength year := daysBeforeMonth_december year
  rcases Nat.lt_or_ge m 12 with hlt | hge
  · have := daysBeforeMonth_add_monthLength_le year hm hlt
    omega
  · have : m = 12 := by omega
    subst this
    exact Nat.le_of_eq hdec

end Calendar

open Calendar

/-! ### Dates -/

namespace Date

/-- The order of dates: by year, then by month, then by day. -/
def Before (a b : Date) : Prop :=
  a.year < b.year ∨ a.year = b.year ∧ (a.month < b.month ∨ a.month = b.month ∧ a.day < b.day)

theorem Before.trichotomy (a b : Date) : a.Before b ∨ a = b ∨ b.Before a := by
  obtain ⟨y, m, d, _, _, _, _⟩ := a
  obtain ⟨y', m', d', _, _, _, _⟩ := b
  simp only [Before, mk.injEq]
  omega

theorem Before.dayNumber_lt {a b : Date} (h : a.Before b) : a.dayNumber < b.dayNumber := by
  have ha := a.day_le
  have hb := b.day_pos
  unfold dayNumber
  rcases h with hyear | ⟨hyear, hmonth | ⟨hmonth, hday⟩⟩
  · -- the earlier date lies within its year, which ends before the other one
    have hlen := daysBeforeMonth_add_monthLength_le_yearLength a.year a.month_pos a.month_le
    have hyears := daysBeforeYear_add_yearLength_le hyear
    omega
  · -- and so with months of one year
    have hmonths := daysBeforeMonth_add_monthLength_le a.year a.month_pos hmonth
    rw [← hyear]
    omega
  · rw [← hyear, ← hmonth]
    omega

/-- **Day numbers are in the order of dates.** -/
theorem dayNumber_lt_iff {a b : Date} : a.dayNumber < b.dayNumber ↔ a.Before b := by
  refine ⟨fun h => ?_, Before.dayNumber_lt⟩
  rcases Before.trichotomy a b with hab | rfl | hba
  · exact hab
  · omega
  · have := hba.dayNumber_lt
    omega

theorem dayNumber_injective {a b : Date} (h : a.dayNumber = b.dayNumber) : a = b := by
  rcases Before.trichotomy a b with hab | rfl | hba
  · have := hab.dayNumber_lt
    omega
  · rfl
  · have := hba.dayNumber_lt
    omega

end Date

/-! ### Moments -/

namespace Moment

variable {a b : Moment}

/-- The order of moments: by date, then by second, then by nanosecond. -/
def Before (a b : Moment) : Prop :=
  a.date.Before b.date ∨ a.date = b.date ∧ (a.second < b.second ∨ a.second = b.second ∧
    a.nano < b.nano)

/-- The year of an earlier moment is not a later one. -/
theorem Before.year_lt_or_eq (h : a.Before b) :
    a.date.year < b.date.year ∨ a.date.year = b.date.year := by
  rcases h with (hyear | ⟨hyear, -⟩) | ⟨hdate, -⟩
  · exact Or.inl hyear
  · exact Or.inr hyear
  · exact Or.inr (congrArg Date.year hdate)

/-- **Ranks are in the order of moments.** -/
theorem rank_lt_iff : a.rank < b.rank ↔ a.Before b := by
  have ha := a.second_lt
  have hb := b.second_lt
  have ha' := a.nano_lt
  have hb' := b.nano_lt
  rw [Before, ← Date.dayNumber_lt_iff]
  have hdate : a.date = b.date ↔ a.date.dayNumber = b.date.dayNumber :=
    ⟨congrArg _, Date.dayNumber_injective⟩
  rw [hdate]
  unfold rank
  omega

theorem rank_injective (h : a.rank = b.rank) : a = b := by
  have ha := a.second_lt
  have hb := b.second_lt
  have ha' := a.nano_lt
  have hb' := b.nano_lt
  unfold rank at h
  have hdate : a.date = b.date := Date.dayNumber_injective (by omega)
  have hsecond : a.second = b.second := by omega
  have hnano : a.nano = b.nano := by omega
  obtain ⟨date, second, nano, _, _, _⟩ := a
  obtain ⟨date', second', nano', _, _, _⟩ := b
  simp only at hdate hsecond hnano
  subst hdate hsecond hnano
  rfl

/-! ### Differences -/

/-- The nanoseconds since the start of 1970; a leap second shares its nanoseconds with the minute
that follows. -/
def unixNanos (m : Moment) : Int := m.unixSeconds * nanosPerSecond + m.nano

/-- Away from leap seconds, a difference is one of distances from the start of 1970. -/
theorem since_eq_of_not_leap (ha : a.isLeapSecond = false) (hb : b.isLeapSecond = false) :
    a.since b = a.unixNanos - b.unixNanos := by
  have hadjust : leapAdjustment a b = 0 := by
    simp only [leapAdjustment, ha, hb, Bool.false_eq_true, if_false, ite_self]
  simp only [since, hadjust, unixNanos, unixSeconds, nanosPerSecond]
  omega

theorem unixNanos_le_of_rank_le (ha : a.isLeapSecond = false) (h : a.rank ≤ b.rank) :
    a.unixNanos ≤ b.unixNanos := by
  -- only a leap second has more nanoseconds than a second, and so could overtake the next one
  have hnano : a.nano < nanosPerSecond := by simpa [isLeapSecond] using ha
  have ha' := a.second_lt
  have hb' := b.second_lt
  have hb'' := b.nano_lt
  unfold rank at h
  unfold unixNanos unixSeconds
  simp only [nanosPerSecond] at *
  omega

/-- The later of two moments lies nearer, away from leap seconds. -/
theorem since_le_since {now : Moment} (hnow : now.isLeapSecond = false)
    (ha : a.isLeapSecond = false) (hb : b.isLeapSecond = false) (h : a ≤ b) :
    now.since b ≤ now.since a := by
  have := unixNanos_le_of_rank_le ha h
  rw [since_eq_of_not_leap hnow ha, since_eq_of_not_leap hnow hb]
  omega

end Moment

end SmartPlaylist

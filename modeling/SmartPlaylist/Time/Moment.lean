import SmartPlaylist.Time.Date

/-!
# Moments

A moment is a date and a time of day in UTC, to the nanosecond.  Any minute may
have a sixty-first second: a *leap second* is kept as its second 59 with more
than a whole second's worth of nanoseconds.

The difference of two moments counts the days between their dates at 24 hours
each, and then the difference of their times of day.  In that last part a leap
second of the earlier time of day counts as the second it is.

## Main definitions

* `Moment`, `Moment.rank` — moments and their order.
* `Moment.since` — the difference of two moments, in nanoseconds.
* `Moment.unixMillis` — whole milliseconds since the start of 1970, rounded down.
-/

namespace SmartPlaylist

/-- A date and a time of day in UTC. -/
structure Moment where
  date : Date
  /-- Seconds since midnight; a leap second counts as the one before it. -/
  second : Nat
  /-- Nanoseconds into the second; a leap second has a whole second more. -/
  nano : Nat
  second_lt : second < 86400
  nano_lt : nano < 2_000_000_000
  leap_ends_minute : 1_000_000_000 ≤ nano → second % 60 = 59
  deriving DecidableEq, Repr

namespace Moment

/-- Nanoseconds in a second. -/
def nanosPerSecond : Nat := 1_000_000_000

/-- Whether the moment lies in a leap second. -/
def isLeapSecond (m : Moment) : Bool := nanosPerSecond ≤ m.nano

/-- The moment of those numbers.  The second 60 is the leap second of its minute. -/
def ofNumbers? (date : Date) (hour minute second nano : Nat) : Option Moment :=
  if h : hour < 24 ∧ minute < 60 ∧ second < 60 ∧ nano < 1_000_000_000 then
    some ⟨date, hour * 3600 + minute * 60 + second, nano, by omega, by omega, by omega⟩
  else if h : hour < 24 ∧ minute < 60 ∧ second = 60 ∧ nano < 1_000_000_000 then
    some ⟨date, hour * 3600 + minute * 60 + 59, nano + 1_000_000_000, by omega, by omega, by omega⟩
  else none

/-- A number that orders moments: by date, then by time of day. -/
def rank (m : Moment) : Int :=
  (m.date.dayNumber * 86400 + m.second) * 2_000_000_000 + m.nano

instance : LE Moment := ⟨fun a b => a.rank ≤ b.rank⟩
instance : LT Moment := ⟨fun a b => a.rank < b.rank⟩
instance (a b : Moment) : Decidable (a ≤ b) := inferInstanceAs (Decidable (a.rank ≤ b.rank))
instance (a b : Moment) : Decidable (a < b) := inferInstanceAs (Decidable (a.rank < b.rank))

/-- How many seconds the leap second adds between two times of day. -/
def leapAdjustment (later earlier : Moment) : Int :=
  if earlier.second < later.second then (if earlier.isLeapSecond then 1 else 0)
  else if later.second < earlier.second then (if later.isLeapSecond then -1 else 0)
  else 0

/-- The nanoseconds from `earlier` to `later`. -/
def since (later earlier : Moment) : Int :=
  ((later.date.dayNumber - earlier.date.dayNumber) * 86400 + later.second - earlier.second +
      leapAdjustment later earlier) * nanosPerSecond +
    later.nano - earlier.nano

/-- Whole milliseconds since the start of 1970, rounded down. -/
def unixMillis (m : Moment) : Int :=
  (m.date.dayNumber * 86400 + m.second) * 1000 + m.nano / 1_000_000

/-- Seconds since the start of 1970. -/
def unixSeconds (m : Moment) : Int := m.date.dayNumber * 86400 + m.second

/-- The moment that many seconds and nanoseconds after the start of 1970; `nano` counts modulo one
second. -/
def ofUnix (seconds nano : Nat) : Moment :=
  ⟨.ofDayNumber (seconds / 86400), seconds % 86400, nano % 1_000_000_000, by omega, by omega,
    by omega⟩

/-- The moment that many whole minutes earlier, for less than a day's worth either way. -/
def minusMinutes (m : Moment) (minutes : Int) : Moment :=
  let second : Int := m.second - minutes * 60
  let date := if second < 0 then m.date.previous else if second < 86400 then m.date else m.date.next
  ⟨date, (second % 86400).toNat, m.nano, by omega, m.nano_lt, by
    intro h
    have := m.leap_ends_minute h
    omega⟩

end Moment

end SmartPlaylist

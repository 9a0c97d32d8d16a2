import SmartPlaylist.Proofs.Decimal.Digits
import SmartPlaylist.Proofs.Time.StoredText
import SmartPlaylist.Time.Rfc3339

/-!
# The years of timestamps

A timestamp is written with a year of four digits.  The moment that it denotes is less than a day
away, on either side of the local time that is written; so its year may be the one before the year 0
or the one after the year 9999.

## Main results

* `Rfc3339.hasNearYear_of_parse` — **every timestamp denotes a moment in one of these years.**
-/

namespace SmartPlaylist

namespace Date

theorem year_next (d : Date) : d.next.year = d.year ∨ d.next.year = d.year + 1 := by
  unfold next
  split
  · exact Or.inl rfl
  · split
    · exact Or.inl rfl
    · exact Or.inr rfl

theorem year_previous (d : Date) : d.previous.year = d.year ∨ d.previous.year = d.year - 1 := by
  unfold previous
  split
  · exact Or.inl rfl
  · split
    · exact Or.inl rfl
    · exact Or.inr rfl

theorem year_ofNumbers? {year : Int} {month day : Nat} {d : Date}
    (h : ofNumbers? year month day = some d) : d.year = year := by
  unfold ofNumbers? at h
  split at h
  · rw [← Option.some.inj h]
  · exact absurd h (by simp)

end Date

namespace Moment

theorem date_ofNumbers? {date : Date} {hour minute second nano : Nat} {m : Moment}
    (h : ofNumbers? date hour minute second nano = some m) : m.date = date := by
  unfold ofNumbers? at h
  split at h
  · rw [← Option.some.inj h]
  · split at h
    · rw [← Option.some.inj h]
    · exact absurd h (by simp)

/-- A change by minutes leads to a neighbouring day at most, and so to a neighbouring year. -/
theorem hasNearYear_minusMinutes {m : Moment} (h : m.HasPlainYear) (minutes : Int) :
    (m.minusMinutes minutes).HasNearYear := by
  obtain ⟨hpos, hle⟩ := h
  have hnext := m.date.year_next
  have hprevious := m.date.year_previous
  unfold minusMinutes HasNearYear
  dsimp only
  split
  · omega
  · split
    · omega
    · omega

end Moment

namespace Rfc3339

/-- A number of some digits is below the power of ten with as many zeros. -/
theorem digits_lt {n value m : Nat} {cs rest : List Char} (h : digits n value cs = some (m, rest)) :
    m < (value + 1) * 10 ^ n := by
  induction n generalizing value cs with
  | zero =>
    obtain ⟨rfl, -⟩ := Prod.mk.inj (Option.some.inj h)
    omega
  | succ n ih =>
    cases cs with
    | nil => exact absurd h (by simp [digits])
    | cons c cs =>
      rw [digits] at h
      split at h
      next hdigit =>
        have hc := Decimal.toNat_of_isDigit hdigit
        have hzero : '0'.toNat = 48 := rfl
        -- one more digit makes the number at most ten times as large, and nine more
        calc m < (value * 10 + (c.toNat - '0'.toNat) + 1) * 10 ^ n := ih h
          _ ≤ ((value + 1) * 10) * 10 ^ n := Nat.mul_le_mul_right _ (by omega)
          _ = (value + 1) * 10 ^ (n + 1) := by rw [Nat.mul_assoc, Nat.pow_succ']
      next => exact absurd h (by simp)

/-- Where a reader goes on after a part, that part was read. -/
theorem exists_of_bind {α β : Type} {part : Option (α × List Char)} {f : α × List Char → Option β}
    {y : β} (h : (part >>= f) = some y) : ∃ x cs, part = some (x, cs) ∧ f (x, cs) = some y := by
  obtain ⟨⟨x, cs⟩, hpart, hrest⟩ := Option.bind_eq_some_iff.mp h
  exact ⟨x, cs, hpart, hrest⟩

/-- The date in a timestamp has a year of four digits. -/
theorem year_date {cs rest : List Char} {d : Date} (h : date cs = some (d, rest)) :
    0 ≤ d.year ∧ d.year ≤ 9999 := by
  unfold date at h
  obtain ⟨year, _, hyear, h⟩ := exists_of_bind h
  obtain ⟨_, _, -, h⟩ := exists_of_bind h
  obtain ⟨month, _, -, h⟩ := exists_of_bind h
  obtain ⟨_, _, -, h⟩ := exists_of_bind h
  obtain ⟨day, _, -, h⟩ := exists_of_bind h
  obtain ⟨d', hdate, h⟩ := Option.bind_eq_some_iff.mp h
  obtain ⟨rfl, -⟩ := Prod.mk.inj (Option.some.inj h)
  have hlt := digits_lt hyear
  rw [Date.year_ofNumbers? hdate]
  omega

theorem hasNearYear_of_timestamp {cs rest : List Char} {m : Moment}
    (h : timestamp cs = some (m, rest)) : m.HasNearYear := by
  unfold timestamp at h
  obtain ⟨d, _, hdate, h⟩ := exists_of_bind h
  obtain ⟨_, _, -, h⟩ := exists_of_bind h
  obtain ⟨hour, _, -, h⟩ := exists_of_bind h
  obtain ⟨_, _, -, h⟩ := exists_of_bind h
  obtain ⟨minute, _, -, h⟩ := exists_of_bind h
  obtain ⟨_, _, -, h⟩ := exists_of_bind h
  obtain ⟨second, _, -, h⟩ := exists_of_bind h
  obtain ⟨nano, _, -, h⟩ := exists_of_bind h
  obtain ⟨minutes, _, -, h⟩ := exists_of_bind h
  obtain ⟨civil, hcivil, h⟩ := Option.bind_eq_some_iff.mp h
  obtain ⟨rfl, -⟩ := Prod.mk.inj (Option.some.inj h)
  -- the offset is taken off a moment of the date that was read
  have hplain : civil.HasPlainYear := by
    unfold Moment.HasPlainYear
    rw [Moment.date_ofNumbers? hcivil]
    exact year_date hdate
  exact Moment.hasNearYear_minusMinutes hplain minutes

/-- **Every timestamp denotes a moment in a year of four digits, or in one beside these.** -/
theorem hasNearYear_of_parse {s : String} {m : Moment} (h : parse s = some m) : m.HasNearYear := by
  unfold parse at h
  split at h
  next heq =>
    obtain rfl := Option.some.inj h
    exact hasNearYear_of_timestamp heq
  next => exact absurd h (by simp)

end Rfc3339

end SmartPlaylist

import SmartPlaylist.Proofs.Store.PlayLog
import SmartPlaylist.Proofs.Text.ByteOrder

/-!
# The column of times

Times are kept in a column of texts, and the database knows nothing of them but their bytes.  A text
shows its moment field by field: the year with a sign if it needs one, two digits for each field
after it, a leap second as the sixty-first of its minute, and then as few groups of three digits as
the part of the second takes.  So nothing of a moment is lost.  For years of four digits nothing of
the order is lost either, and the greatest text of a column is that of its latest moment.

## Main definitions

* `Moment.IsField`, `Moment.IsYear`, `Moment.IsFraction` — how the parts of a moment are written.
* `Moment.IsShown` — the characters with which a moment is shown.

## Main results

* `Moment.isShown_storedText` — a stored text shows its moment.
* `Moment.utf8_storedText_lt_iff` — bytes are in the order of moments.
* `Moment.greatest?_storedText_iff` — the greatest text is that of the latest moment.
* `Store.storedTexts_faithful` — **the column keeps its times, their order and the latest of them.**
-/

namespace SmartPlaylist

open Decimal

namespace Moment

open StoredText

/-! ### How a moment is shown -/

/-- The characters are so many digits, and denote the number. -/
structure IsField (width n : Nat) (cs : List Char) : Prop where
  digits : AllDigits cs
  length : cs.length = width
  value : ofDigits cs = n

theorem isField_padded {width n : Nat} (hw : 0 < width) (h : n < 10 ^ width) :
    IsField width n (padded width n).toList where
  digits := allDigits_padded width n
  length := length_padded hw h
  value := ofDigits_padded width n

/-- The characters are four digits, or as many as it takes, and denote the number. -/
def IsLongField (n : Nat) (cs : List Char) : Prop :=
  ∃ width, 4 ≤ width ∧ (4 < width → 10 ^ (width - 1) ≤ n) ∧ IsField width n cs

/-- How a year is written: with four digits from 0 to 9999, and otherwise with a sign and at least
four digits. -/
inductive IsYear (y : Int) : List Char → Prop
  | plain {cs : List Char} (hpos : 0 ≤ y) (hle : y ≤ 9999) (h : IsField 4 y.toNat cs) : IsYear y cs
  | before {cs : List Char} (hneg : y < 0) (h : IsLongField y.natAbs cs) : IsYear y ('-' :: cs)
  | past {cs : List Char} (hpast : 9999 < y) (h : IsLongField y.natAbs cs) : IsYear y ('+' :: cs)

/-- How a part of a second is written: not at all if there is none, and otherwise as a point with
three, six or nine digits, as few as will do. -/
inductive IsFraction (nano : Nat) : List Char → Prop
  | whole (h : nano = 0) : IsFraction nano []
  | part {places : Nat} {cs : List Char} (hnano : nano ≠ 0) (hplaces : places ∈ [3, 6, 9])
      (hexact : 10 ^ (9 - places) ∣ nano)
      (hleast : ∀ fewer ∈ [3, 6, 9], 10 ^ (9 - fewer) ∣ nano → places ≤ fewer)
      (h : IsField places (nano / 10 ^ (9 - places)) cs) : IsFraction nano ('.' :: cs)

/-- The characters show a moment: its date and its time of day, field by field.  A leap second is
the second 60 of its minute. -/
structure IsShown (m : Moment) (cs : List Char) : Prop where
  fields : ∃ year month day hour minute second fraction,
    cs = year ++ '-' :: (month ++ '-' :: (day ++ ' ' ::
      (hour ++ ':' :: (minute ++ ':' :: (second ++ fraction))))) ∧
    IsYear m.date.year year ∧ IsField 2 m.date.month month ∧ IsField 2 m.date.day day ∧
    IsField 2 (m.second / 3600) hour ∧ IsField 2 (m.second / 60 % 60) minute ∧
    IsField 2 (if m.isLeapSecond then 60 else m.second % 60) second ∧
    IsFraction (m.nano % nanosPerSecond) fraction

theorem isLongField_padded (n : Nat) : IsLongField n (padded 4 n).toList := by
  have hlength : (padded 4 n).toList.length = max 4 (Nat.toDigits 10 n).length := by
    rw [toList_padded, List.length_append, List.length_replicate]
    omega
  refine ⟨max 4 (Nat.toDigits 10 n).length, by omega, ?_, allDigits_padded 4 n, hlength,
    ofDigits_padded 4 n⟩
  intro hlong
  -- one digit less would not be enough
  apply Nat.le_of_not_lt
  intro hlt
  have hfew := (Nat.length_toDigits_le_iff (by decide) (by omega)).mpr hlt
  omega

theorem isYear_yearText (y : Int) : IsYear y (yearText y).toList := by
  have hsigned := isLongField_padded y.natAbs
  unfold yearText
  split
  next h => exact .plain h.1 h.2 (isField_padded (by decide) (by omega))
  next h =>
    rw [String.toList_append]
    split
    next hneg => exact .before hneg hsigned
    next hpos => exact .past (by omega) hsigned

theorem isFraction_fractionText {nano : Nat} (h : nano < 1_000_000_000) :
    IsFraction nano (fractionText nano).toList := by
  unfold fractionText
  split
  next hzero => exact .whole hzero
  next hpos =>
    have hpart : ∀ places ∈ [3, 6, 9], 10 ^ (9 - places) ∣ nano →
        (∀ fewer ∈ [3, 6, 9], 10 ^ (9 - fewer) ∣ nano → places ≤ fewer) →
        IsFraction nano ("." ++ padded places (nano / 10 ^ (9 - places))).toList := by
      intro places hplaces hexact hleast
      have hfield : IsField places (nano / 10 ^ (9 - places))
          (padded places (nano / 10 ^ (9 - places))).toList := by
        simp only [List.mem_cons, List.not_mem_nil, or_false] at hplaces
        rcases hplaces with rfl | rfl | rfl <;> exact isField_padded (by decide) (by omega)
      rw [String.toList_append]
      exact .part hpos hplaces hexact hleast hfield
    split
    next h6 =>
      apply hpart 3 (by simp) (Nat.dvd_of_mod_eq_zero h6)
      simp
    next h6 =>
      split
      next h3 =>
        apply hpart 6 (by simp) (Nat.dvd_of_mod_eq_zero h3)
        simp
        omega
      next h3 =>
        have hnine := hpart 9 (by simp) (one_dvd nano)
        rw [Nat.sub_self, Nat.pow_zero, Nat.div_one] at hnine
        apply hnine
        simp
        omega

/-- The second that is written. -/
theorem second_shown (m : Moment) :
    m.second % 60 + m.nano / 1_000_000_000 = if m.isLeapSecond then 60 else m.second % 60 := by
  have hnano := m.nano_lt
  have hends := m.leap_ends_minute
  unfold isLeapSecond nanosPerSecond
  simp only [decide_eq_true_eq]
  split <;> omega

/-- **A stored text shows its moment.** -/
theorem isShown_storedText (m : Moment) : m.IsShown m.storedText.toList := by
  obtain ⟨hmonth, hday, hhour, hminute, hsecond⟩ := m.fields_lt
  have hfraction := isFraction_fractionText (Nat.mod_lt m.nano (by decide : 0 < 1_000_000_000))
  have hpair : ∀ n < 100, IsField 2 n (padded 2 n).toList := fun n hn =>
    isField_padded (by decide) hn
  refine ⟨_, _, _, _, _, _, _, toList_storedText m, isYear_yearText _, hpair _ hmonth,
    hpair _ hday, hpair _ hhour, hpair _ hminute, ?_, hfraction⟩
  rw [← second_shown]
  exact hpair _ hsecond

/-! ### The order of the texts -/

/-- **Bytes are in the order of moments**, for years of four digits. -/
theorem utf8_storedText_lt_iff {a b : Moment} (ha : a.HasPlainYear) (hb : b.HasPlainYear) :
    Text.utf8 a.storedText < Text.utf8 b.storedText ↔ a < b := by
  rw [Text.utf8_lt_utf8]
  exact storedText_lt_iff ha hb

/-- **The greatest text is that of the latest moment.** -/
theorem greatest?_storedText_iff {moments : List Moment}
    (hyears : ∀ m ∈ moments, m.HasPlainYear) {text : String} :
    Text.greatest? (moments.map storedText) = some text ↔
      ∃ latest ∈ moments, latest.storedText = text ∧ ∀ m ∈ moments, m ≤ latest := by
  rw [Text.greatest?_eq_some_iff, List.forall_mem_map]
  constructor
  · rintro ⟨hmem, hmax⟩
    obtain ⟨latest, hlatest, rfl⟩ := List.mem_map.mp hmem
    refine ⟨latest, hlatest, rfl, ?_⟩
    intro m hm
    exact (storedText_le_iff (hyears m hm) (hyears latest hlatest)).mp (hmax m hm)
  · rintro ⟨latest, hlatest, rfl, hmax⟩
    refine ⟨List.mem_map_of_mem hlatest, ?_⟩
    intro m hm
    exact (storedText_le_iff (hyears m hm) (hyears latest hlatest)).mpr (hmax m hm)

end Moment

/-! ### The column -/

namespace Store

open Moment

/-- **The column of times keeps its times, their order and the latest of them.**  Every moment is
shown by its text and read back from it.  For years of four digits the order of the bytes is that of
the moments, which is by date, then by second, a leap second being in the second that it follows.  So
the greatest of several texts is that of the latest moment, and this is what is found for a whole
history of plays and for each track in it. -/
theorem storedTexts_faithful :
    (∀ m : Moment, m.IsShown m.storedText.toList ∧ ofStoredText? m.storedText = some m) ∧
    (∀ a b : Moment, a.HasPlainYear → b.HasPlainYear →
      (Text.utf8 a.storedText < Text.utf8 b.storedText ↔ a < b) ∧ (a < b ↔ a.Before b)) ∧
    (∀ moments : List Moment, (∀ m ∈ moments, m.HasPlainYear) → ∀ text,
      Text.greatest? (moments.map storedText) = some text ↔
        ∃ latest ∈ moments, latest.storedText = text ∧ ∀ m ∈ moments, m ≤ latest) ∧
    ∀ (db : Database) (log : List Play), db.playHistory = some (log.map Play.row) →
      (∀ p ∈ log, p.playedAt.HasPlainYear) →
      (∃ latest, latestPlayedAt.outcome db = (.ok latest, db) ∧ IsLatestOf log latest) ∧
      ∃ history, lastPlayed.outcome db = (.ok history, db) ∧
        ∀ id, IsLatestOf (log.filter fun p => p.trackId = id) (history.lookup id) := by
  refine ⟨?_, ?_, ?_, ?_⟩
  · intro m
    exact ⟨m.isShown_storedText, ofStoredText?_storedText m⟩
  · intro a b ha hb
    exact ⟨utf8_storedText_lt_iff ha hb, rank_lt_iff⟩
  · intro moments hyears text
    exact greatest?_storedText_iff hyears
  · intro db log hlog hyears
    exact ⟨outcome_latestPlayedAt hlog hyears, exists_lastPlayed_journal hlog hyears⟩

/-- So many nanoseconds into the last second of a leap day. -/
def leapDay (nano : Nat) : Moment := .ofUnix (789 * 86400 + 86399) nano

/-- A leap second after that, half a second in the second before it, and a little more. -/
def lastSeconds : List Play :=
  [⟨"a", leapSecond 789⟩, ⟨"b", leapDay 500_000_000⟩, ⟨"b", leapDay 500_001_000⟩]

/-- A history of these plays. -/
def lastSecondsHistory : Database :=
  { Database.fresh with playHistory := some (lastSeconds.map Play.row) }

/-- Six digits after the second are more than three, and the leap second is the latest. -/
theorem storedTexts_lastSeconds :
    lastSeconds.map (fun p => p.playedAt.storedText)
        = ["1972-02-29 23:59:60.500", "1972-02-29 23:59:59.500", "1972-02-29 23:59:59.500001"] ∧
      Text.utf8 (leapDay 500_000_000).storedText < Text.utf8 (leapDay 500_001_000).storedText ∧
      latestPlayedAt.outcome lastSecondsHistory
        = (.ok (some (leapSecond 789)), lastSecondsHistory) := by
  have hyears : ∀ p ∈ lastSeconds, p.playedAt.HasPlainYear := by
    unfold lastSeconds HasPlainYear
    decide +kernel
  have hlatest : IsLatestOf lastSeconds (some (leapSecond 789)) := by
    unfold IsLatestOf
    decide +kernel
  have hhalf := hyears ⟨"b", leapDay 500_000_000⟩ (by simp [lastSeconds])
  have hmore := hyears ⟨"b", leapDay 500_001_000⟩ (by simp [lastSeconds])
  obtain ⟨-, horder, -, hcolumn⟩ := storedTexts_faithful
  obtain ⟨⟨latest, hread, hspec⟩, -⟩ := hcolumn lastSecondsHistory lastSeconds rfl hyears
  rw [hspec.unique hlatest] at hread
  obtain ⟨hbytes, -⟩ := horder _ _ hhalf hmore
  exact ⟨by decide +kernel, hbytes.mpr (by decide +kernel), hread⟩

end Store

end SmartPlaylist

import Mathlib.Logic.ExistsUnique
import Mathlib.Logic.Function.Iterate
import SmartPlaylist.Proofs.Time.Timestamp

/-!
# Times at an offset from UTC

A clock that is set so many minutes ahead of UTC, or behind it, shows another time of day, and near
midnight another date.  Counted in seconds it is simply ahead by the offset, so what it shows is
determined, and the moment can be found again.  A timestamp says what such a clock shows and how it
is set; whatever the offset, it denotes the moment at which it is written.

## Main definitions

* `Date.epoch`, `Date.plusDays` — the first day of 1970, and days counted from a date one by one.
* `Moment.IsLocal` — what a clock at an offset from UTC shows at a moment.
* `Rfc3339.zoneTexts`, `Rfc3339.text` — how an offset is written, and a timestamp.

## Main results

* `Date.plusDays_dayNumber` — day numbers count the days since the first of January 1970.
* `Moment.existsUnique_isLocal` — a clock shows one thing at a time.
* `Rfc3339.parse_text` — **a timestamp denotes the moment at which it is written.**
-/

namespace SmartPlaylist

open Decimal

/-! ### Days counted one by one -/

namespace Date

/-- The first of January 1970. -/
def epoch : Date := ofDayNumber 0

/-- The date so many days after another one, or before it. -/
def plusDays (d : Date) : Int → Date
  | .ofNat n => next^[n] d
  | .negSucc n => previous^[n + 1] d

theorem dayNumber_iterate_next (d : Date) (n : Nat) :
    (next^[n] d).dayNumber = d.dayNumber + n := by
  induction n with
  | zero => simp
  | succ n ih =>
    rw [Function.iterate_succ_apply', dayNumber_next, ih]
    omega

theorem dayNumber_iterate_previous (d : Date) (n : Nat) :
    (previous^[n] d).dayNumber = d.dayNumber - n := by
  induction n with
  | zero => simp
  | succ n ih =>
    rw [Function.iterate_succ_apply', dayNumber_previous, ih]
    omega

theorem dayNumber_plusDays (d : Date) (days : Int) :
    (d.plusDays days).dayNumber = d.dayNumber + days := by
  cases days with
  | ofNat n => exact dayNumber_iterate_next d n
  | negSucc n =>
    rw [plusDays, dayNumber_iterate_previous]
    omega

/-- **Day numbers count the days since the first of January 1970.** -/
theorem plusDays_dayNumber (d : Date) : epoch.plusDays d.dayNumber = d := by
  apply dayNumber_injective
  have hepoch : epoch.dayNumber = 0 := dayNumber_ofDayNumber 0
  rw [dayNumber_plusDays, hepoch, Int.zero_add]

end Date

/-! ### Clocks -/

namespace Moment

variable {m civil : Moment} {east : Int}

theorem eq_of_unixSeconds {a b : Moment} (hseconds : a.unixSeconds = b.unixSeconds)
    (hnano : a.nano = b.nano) : a = b := by
  apply rank_injective
  unfold unixSeconds at hseconds
  rw [rank, rank, hseconds, hnano]

/-- What a clock shows that is set so many minutes ahead of UTC, or behind it. -/
structure IsLocal (east : Int) (m civil : Moment) : Prop where
  seconds : civil.unixSeconds = m.unixSeconds + east * 60
  nano : civil.nano = m.nano

/-- Minutes are taken off the seconds since 1970, over the ends of days, months and years. -/
theorem unixSeconds_minusMinutes (m : Moment) {minutes : Int} (h : minutes.natAbs < 24 * 60) :
    (m.minusMinutes minutes).unixSeconds = m.unixSeconds - minutes * 60 := by
  have hsecond := m.second_lt
  have hnext := m.date.dayNumber_next
  have hprevious := m.date.dayNumber_previous
  unfold minusMinutes unixSeconds
  dsimp only
  split
  · omega
  · split
    · omega
    · omega

theorem isLocal_minusMinutes (m : Moment) (h : east.natAbs < 24 * 60) :
    IsLocal east m (m.minusMinutes (-east)) where
  seconds := by
    rw [unixSeconds_minusMinutes m (by omega)]
    omega
  nano := rfl

/-- **A clock shows one thing at a time.** -/
theorem existsUnique_isLocal (m : Moment) (h : east.natAbs < 24 * 60) :
    ∃! civil, IsLocal east m civil := by
  refine ⟨m.minusMinutes (-east), isLocal_minusMinutes m h, ?_⟩
  intro civil hcivil
  have hlocal := isLocal_minusMinutes m h
  exact eq_of_unixSeconds (hcivil.seconds.trans hlocal.seconds.symm)
    (hcivil.nano.trans hlocal.nano.symm)

/-- The offset leads back from what the clock shows to the moment. -/
theorem IsLocal.minusMinutes_eq (hcivil : IsLocal east m civil) (h : east.natAbs < 24 * 60) :
    civil.minusMinutes east = m := by
  apply eq_of_unixSeconds
  · rw [unixSeconds_minusMinutes civil h, hcivil.seconds]
    omega
  · exact hcivil.nano

end Moment

namespace Rfc3339

open Moment.StoredText (padded dateText clockText yearText allDigits_padded length_padded
  ofDigits_padded padded_ne_nil ofNumbers?_date ofNumbers?_clock)

/-! ### Writing -/

/-- An offset with its sign: hours and minutes. -/
def zoneText (sign : Char) (minutes : Nat) : String :=
  String.singleton sign ++ padded 2 (minutes / 60) ++ ":" ++ padded 2 (minutes % 60)

/-- How an offset from UTC may be written; an offset of nothing has either sign, or is a letter. -/
def zoneTexts (east : Int) : List String :=
  (if east = 0 then ["Z", "z"] else []) ++
    (if 0 ≤ east then [zoneText '+' east.natAbs] else []) ++
    (if east ≤ 0 then [zoneText '-' east.natAbs] else [])

/-- The part of a second to so many places. -/
def placesText (places nano : Nat) : String :=
  if places = 0 then "" else "." ++ padded places (nano / 10 ^ (9 - places))

/-- The characters that may stand between a date and a time of day. -/
def marks : List Char := ['T', 't', ' ']

/-- A timestamp: what a clock shows, to so many places of a second, and how the clock is set. -/
def text (mark : Char) (places : Nat) (zone : String) (civil : Moment) : String :=
  dateText civil.date ++ String.singleton mark ++ clockText civil ++
    placesText places (civil.nano % 1_000_000_000) ++ zone

/-! ### Reading -/

theorem digits_append {cs : List Char} (h : AllDigits cs) (value : Nat) (rest : List Char) :
    digits cs.length value (cs ++ rest)
      = some (value * 10 ^ cs.length + ofDigits cs, rest) := by
  induction cs generalizing value with
  | nil => simp [digits, ofDigits]
  | cons c cs ih =>
    have hc : c.isDigit = true := h c (List.mem_cons_self ..)
    have hcs : AllDigits cs := fun d hd => h d (List.mem_cons_of_mem _ hd)
    rw [List.length_cons, List.cons_append, digits, if_pos hc, ih hcs, ofDigits_cons, Nat.pow_succ,
      Nat.add_mul, Nat.mul_assoc, Nat.mul_comm 10, Nat.add_assoc]

theorem digits_padded {width n : Nat} (hw : 0 < width) (h : n < 10 ^ width) (rest : List Char) :
    digits width 0 ((padded width n).toList ++ rest) = some (n, rest) := by
  have hread := digits_append (allDigits_padded width n) 0 rest
  rwa [length_padded hw h, ofDigits_padded, Nat.zero_mul, Nat.zero_add] at hread

theorem oneOf_cons {allowed : List Char} {c : Char} (h : c ∈ allowed) (rest : List Char) :
    oneOf allowed (c :: rest) = some ((), rest) := if_pos h

/-- A date of a four-digit year. -/
theorem date_dateText {d : Date} (h : 0 ≤ d.year ∧ d.year ≤ 9999) (rest : List Char) :
    date ((dateText d).toList ++ rest) = some (d, rest) := by
  have hmonth := d.month_le
  have hday := d.day_le
  have hlength := Calendar.monthLength_le d.year d.month
  have hchars : (dateText d).toList ++ rest = (padded 4 d.year.toNat).toList ++
      '-' :: ((padded 2 d.month).toList ++ '-' :: ((padded 2 d.day).toList ++ rest)) := by
    have hhyphen : "-".toList = ['-'] := rfl
    simp only [dateText, yearText, if_pos h, String.toList_append, hhyphen, List.append_assoc,
      List.cons_append, List.nil_append]
  have hyear : (d.year.toNat : Int) = d.year := Int.toNat_of_nonneg h.1
  have hhyphen : '-' ∈ ['-'] := List.mem_singleton_self _
  rw [hchars, date]
  simp only [bind, digits_padded (show 0 < 4 by decide) (show d.year.toNat < 10 ^ 4 by omega),
    digits_padded (show 0 < 2 by decide) (show d.month < 10 ^ 2 by omega),
    digits_padded (show 0 < 2 by decide) (show d.day < 10 ^ 2 by omega), oneOf_cons hhyphen,
    Option.bind_some, hyear, ofNumbers?_date]

/-- Neither a digit nor a point comes next, as before the offset in a timestamp. -/
def EndsFraction (rest : List Char) : Prop := ∀ c ∈ rest.head?, c.isDigit = false ∧ c ≠ '.'

theorem endsFraction_cons {c : Char} (h : c.isDigit = false ∧ c ≠ '.') (rest : List Char) :
    EndsFraction (c :: rest) := by
  intro d hd
  obtain rfl : c = d := Option.some.inj hd
  exact h

theorem fraction_of_endsFraction {rest : List Char} (h : EndsFraction rest) :
    fraction rest = some (0, rest) := by
  unfold fraction
  split
  next cs => exact absurd rfl (h '.' rfl).2
  next => rfl

/-- Digits after a point are read as billionths, up to nine of them. -/
theorem fraction_digits {cs rest : List Char} (hall : AllDigits cs) (hne : cs ≠ [])
    (hlength : cs.length ≤ 9) (hrest : EndsFraction rest) :
    fraction ('.' :: (cs ++ rest)) = some (ofDigits cs * 10 ^ (9 - cs.length), rest) := by
  have hstop : rest.takeWhile Char.isDigit = [] ∧ rest.dropWhile Char.isDigit = rest := by
    cases rest with
    | nil => simp
    | cons c rest => simp [(hrest c rfl).1]
  have hempty : cs.isEmpty = false := List.isEmpty_eq_false_iff.mpr hne
  have hbillionths : billionths cs = ofDigits cs * 10 ^ (9 - cs.length) := by
    rw [billionths, List.take_of_length_le hlength]
    rfl
  rw [fraction]
  simp only [List.takeWhile_append_of_pos hall, List.dropWhile_append_of_pos hall, hstop,
    List.append_nil, hempty, hbillionths, Bool.false_eq_true, if_false]

/-- A part of a second is read off its places, if it needs no more of them. -/
theorem fraction_placesText {places nano : Nat} {rest : List Char} (hplaces : places ≤ 9)
    (hnano : nano < 1_000_000_000) (hexact : 10 ^ (9 - places) ∣ nano) (hrest : EndsFraction rest) :
    fraction ((placesText places nano).toList ++ rest) = some (nano, rest) := by
  unfold placesText
  split
  next hzero =>
    subst hzero
    have hnone : nano = 0 := Nat.eq_zero_of_dvd_of_lt hexact hnano
    subst hnone
    exact fraction_of_endsFraction hrest
  next hpos =>
    have hvalue : nano / 10 ^ (9 - places) * 10 ^ (9 - places) = nano := Nat.div_mul_cancel hexact
    have hfit : nano / 10 ^ (9 - places) < 10 ^ places := by
      apply Nat.div_lt_of_lt_mul
      rw [← Nat.pow_add, Nat.sub_add_cancel hplaces]
      exact hnano
    have hlength := length_padded (Nat.pos_of_ne_zero hpos) hfit
    have hread := fraction_digits (allDigits_padded places (nano / 10 ^ (9 - places)))
      (padded_ne_nil _ _) (by omega) hrest
    rw [hlength, ofDigits_padded, hvalue] at hread
    have hpoint : ".".toList = ['.'] := rfl
    rw [String.toList_append, hpoint, List.singleton_append, List.cons_append]
    exact hread

/-! ### Offsets -/

theorem toList_zoneText (sign : Char) (minutes : Nat) :
    (zoneText sign minutes).toList
      = sign :: ((padded 2 (minutes / 60)).toList ++
        ':' :: ((padded 2 (minutes % 60)).toList ++ [])) := by
  have hcolon : ":".toList = [':'] := rfl
  simp only [zoneText, String.toList_append, String.toList_singleton, hcolon, List.append_assoc,
    List.cons_append, List.nil_append, List.append_nil]

/-- An offset is read with the sign before it. -/
theorem offset_zoneText {sign : Char} (hsign : sign = '+' ∨ sign = '-') {minutes : Nat}
    (h : minutes < 24 * 60) :
    offset (zoneText sign minutes).toList
      = some (if sign = '+' then (minutes : Int) else -(minutes : Int), []) := by
  have hletter : ¬(sign = 'Z' ∨ sign = 'z') := by
    rcases hsign with rfl | rfl <;> decide
  have hmark : sign = '+' ∨ sign = '-' ∨ sign = '−' := hsign.imp_right Or.inl
  have hfit : minutes / 60 < 24 ∧ minutes % 60 < 60 := by omega
  have hsum : ((minutes / 60 : Nat) : Int) * 60 + ((minutes % 60 : Nat) : Int) = minutes := by omega
  have hcolon : ':' ∈ [':'] := List.mem_singleton_self _
  rw [toList_zoneText, offset, if_neg hletter, if_pos hmark]
  simp only [bind, digits_padded (show 0 < 2 by decide) (show minutes / 60 < 10 ^ 2 by omega),
    digits_padded (show 0 < 2 by decide) (show minutes % 60 < 10 ^ 2 by omega),
    oneOf_cons hcolon, Option.bind_some, if_pos hfit, hsum]

/-- An offset is a letter if there is none, or has a sign on its side; none has either sign. -/
theorem mem_zoneTexts_iff {east : Int} {zone : String} :
    zone ∈ zoneTexts east ↔ east = 0 ∧ (zone = "Z" ∨ zone = "z") ∨
      0 ≤ east ∧ zone = zoneText '+' east.natAbs ∨
      east ≤ 0 ∧ zone = zoneText '-' east.natAbs := by
  simp only [zoneTexts, List.mem_append, List.mem_ite_nil_right, List.mem_cons, List.not_mem_nil,
    or_false, or_assoc]

theorem endsFraction_zoneText {sign : Char} (hsign : sign = '+' ∨ sign = '-') (minutes : Nat) :
    EndsFraction (zoneText sign minutes).toList := by
  rw [toList_zoneText]
  apply endsFraction_cons
  rcases hsign with rfl | rfl <;> decide

/-- Each way of writing an offset is read as that offset, and ends a fraction before it. -/
theorem offset_of_mem_zoneTexts {east : Int} (h : east.natAbs < 24 * 60) {zone : String}
    (hzone : zone ∈ zoneTexts east) :
    offset zone.toList = some (east, []) ∧ EndsFraction zone.toList := by
  rcases mem_zoneTexts_iff.mp hzone with ⟨rfl, rfl | rfl⟩ | ⟨hpos, rfl⟩ | ⟨hneg, rfl⟩
  · exact ⟨rfl, endsFraction_cons (by decide) []⟩
  · exact ⟨rfl, endsFraction_cons (by decide) []⟩
  · refine ⟨?_, endsFraction_zoneText (Or.inl rfl) _⟩
    rw [offset_zoneText (Or.inl rfl) h, if_pos rfl, Int.natAbs_of_nonneg hpos]
  · refine ⟨?_, endsFraction_zoneText (Or.inr rfl) _⟩
    rw [offset_zoneText (Or.inr rfl) h, if_neg (by decide), Int.ofNat_natAbs_of_nonpos hneg,
      Int.neg_neg]

/-! ### Timestamps -/

/-- The characters of a timestamp, field by field. -/
theorem toList_text (mark : Char) (places : Nat) (zone : String) (civil : Moment) :
    (text mark places zone civil).toList = (dateText civil.date).toList ++
      mark :: ((padded 2 (civil.second / 3600)).toList ++
      ':' :: ((padded 2 (civil.second / 60 % 60)).toList ++
      ':' :: ((padded 2 (civil.second % 60 + civil.nano / 1_000_000_000)).toList ++
        ((placesText places (civil.nano % 1_000_000_000)).toList ++ zone.toList)))) := by
  have hcolon : ":".toList = [':'] := rfl
  simp only [text, clockText, String.toList_append, String.toList_singleton, hcolon,
    List.append_assoc, List.cons_append, List.nil_append]

/-- **A timestamp denotes the moment at which it is written**, whatever the offset, if it has the
places that the part of the second needs. -/
theorem parse_text {m civil : Moment} {east : Int} (heast : east.natAbs < 24 * 60)
    (hcivil : Moment.IsLocal east m civil) (hyear : civil.HasPlainYear) {mark : Char}
    (hmark : mark ∈ marks) {places : Nat} (hplaces : places ≤ 9)
    (hexact : 10 ^ (9 - places) ∣ m.nano) {zone : String} (hzone : zone ∈ zoneTexts east) :
    parse (text mark places zone civil) = some m := by
  obtain ⟨-, -, hhour, hminute, hsecond⟩ := civil.fields_lt
  obtain ⟨hoffset, hends⟩ := offset_of_mem_zoneTexts heast hzone
  have hnano : 10 ^ (9 - places) ∣ civil.nano % 1_000_000_000 := by
    rw [hcivil.nano]
    exact (Nat.dvd_mod_iff (Nat.pow_dvd_pow 10 (Nat.sub_le 9 places))).mpr hexact
  have hfraction := fraction_placesText hplaces
    (Nat.mod_lt civil.nano (by decide : 0 < 1_000_000_000)) hnano hends
  have hmark : mark ∈ ['T', 't', ' '] := hmark
  have hcolon : ':' ∈ [':'] := List.mem_singleton_self _
  have hread : timestamp (text mark places zone civil).toList = some (m, []) := by
    rw [toList_text, timestamp]
    simp only [bind, date_dateText hyear, oneOf_cons hmark, oneOf_cons hcolon,
      digits_padded (show 0 < 2 by decide) hhour, digits_padded (show 0 < 2 by decide) hminute,
      digits_padded (show 0 < 2 by decide) hsecond, hfraction, hoffset, Option.bind_some,
      ofNumbers?_clock, hcivil.minusMinutes_eq heast]
  rw [parse, hread]

end Rfc3339

end SmartPlaylist

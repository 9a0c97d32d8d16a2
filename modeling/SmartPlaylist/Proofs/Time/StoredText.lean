import SmartPlaylist.Proofs.Decimal.Digits
import SmartPlaylist.Proofs.Time.Calendar
import SmartPlaylist.Time.StoredText

/-!
# Stored moments, read back and compared

Every moment is read back from its stored text.  In the years 0 to 9999 all fields but the last have
a fixed width, and the digits after the point lack only zeros; so the texts of such moments are in
the order of the moments, and the greatest text is that of the latest moment.  Other years bear a
sign.  A minus comes before all digits, as it should; but so does a plus.

## Main definitions

* `Moment.HasPlainYear`, `Moment.HasNearYear` — the years of four digits, and one more at either end.

## Main results

* `Moment.ofStoredText?_storedText` — **a stored moment is read back.**
* `Moment.storedText_lt_iff` — **stored texts are in the order of moments**, for four-digit years.
* `Moment.storedText_lt_of_past` — the texts of the years past 9999 come before all others.
-/

namespace SmartPlaylist.Moment

open Decimal StoredText

/-- Every field but the year has two digits. -/
theorem fields_lt (m : Moment) :
    m.date.month < 100 ∧ m.date.day < 100 ∧ m.second / 3600 < 100 ∧ m.second / 60 % 60 < 100 ∧
      m.second % 60 + m.nano / 1_000_000_000 < 100 := by
  have hmonth := m.date.month_le
  have hday := m.date.day_le
  have hlength := Calendar.monthLength_le m.date.year m.date.month
  have hsecond := m.second_lt
  have hnano := m.nano_lt
  omega

namespace StoredText

/-! ### Padded numbers -/

variable {width n : Nat} {digits rest : List Char}

theorem toList_padded (width n : Nat) :
    (padded width n).toList
      = List.replicate (width - (Nat.toDigits 10 n).length) '0' ++ Nat.toDigits 10 n := by
  simp only [padded, zeros, digitText, String.toList_append, String.toList_ofList,
    String.length_ofList]

theorem allDigits_padded (width n : Nat) : AllDigits (padded width n).toList := by
  rw [toList_padded]
  exact (allDigits_zeros _).append (allDigits_toDigits n)

theorem ofDigits_padded (width n : Nat) : ofDigits (padded width n).toList = n := by
  rw [toList_padded, ofDigits_append, ofDigits_zeros, ofDigits_toDigits, Nat.zero_mul, Nat.zero_add]

theorem length_padded (hw : 0 < width) (h : n < 10 ^ width) :
    (padded width n).toList.length = width := by
  have hlen := (Nat.length_toDigits_le_iff (by decide) hw).mpr h
  rw [toList_padded, List.length_append, List.length_replicate]
  omega

theorem padded_ne_nil (width n : Nat) : (padded width n).toList ≠ [] := by
  rw [toList_padded]
  exact List.append_ne_nil_of_right_ne_nil _ Nat.toDigits_ne_nil

/-- A padded number starts with a digit. -/
theorem exists_padded_eq_cons (width n : Nat) :
    ∃ c cs, (padded width n).toList = c :: cs ∧ c.isDigit = true := by
  cases h : (padded width n).toList with
  | nil => exact absurd h (padded_ne_nil width n)
  | cons c cs => exact ⟨c, cs, rfl, allDigits_padded width n c (by simp [h])⟩

/-- It does not start with a sign. -/
theorem padded_append_ne_cons {sign : Char} (hsign : sign.isDigit = false) (width n : Nat)
    (rest cs : List Char) : (padded width n).toList ++ rest ≠ sign :: cs := by
  obtain ⟨c, ds, h, hc⟩ := exists_padded_eq_cons width n
  intro heq
  rw [h, List.cons_append, List.cons.injEq] at heq
  rw [heq.1, hsign] at hc
  exact Bool.false_ne_true hc

theorem isBlank_eq_false_of_isDigit {c : Char} (h : c.isDigit = true) : Text.isBlank c = false := by
  have := toNat_of_isDigit h
  simp only [Text.isBlank, Bool.or_eq_false_iff, Bool.and_eq_false_iff, decide_eq_false_iff_not,
    beq_eq_false_iff_ne]
  omega

theorem dropWhile_isBlank_padded (width n : Nat) (rest : List Char) :
    ((padded width n).toList ++ rest).dropWhile Text.isBlank
      = (padded width n).toList ++ rest := by
  obtain ⟨c, cs, h, hc⟩ := exists_padded_eq_cons width n
  rw [h, List.cons_append, List.dropWhile_cons_of_neg]
  rw [isBlank_eq_false_of_isDigit hc]
  decide

/-! ### Readers -/

/-- A number is read off its digits when there are as many as are read, or no more follow. -/
theorem number_append (hne : digits ≠ []) (hdigits : AllDigits digits)
    (hwidth : digits.length ≤ width)
    (hstop : digits.length = width ∨ ∀ c ∈ rest.head?, c.isDigit = false) :
    number width (digits ++ rest) = some (ofDigits digits, rest) := by
  have htake : ((digits ++ rest).take width).takeWhile Char.isDigit = digits := by
    rw [List.take_append, List.take_of_length_le hwidth,
      List.takeWhile_append_of_pos hdigits]
    rcases hstop with rfl | hstop
    · rw [Nat.sub_self, List.take_zero, List.takeWhile_nil, List.append_nil]
    · -- what is read beyond the digits starts with something else
      have hrest : (rest.take (width - digits.length)).takeWhile Char.isDigit = [] := by
        cases rest with
        | nil => simp
        | cons c cs =>
          have hc : c.isDigit = false := hstop c rfl
          cases width - digits.length with
          | zero => rfl
          | succ k => rw [List.take_succ_cons, List.takeWhile_cons_of_neg (by simp [hc])]
      rw [hrest, List.append_nil]
  have hempty : digits.isEmpty = false := by simpa using hne
  simp only [number, htake, hempty, Bool.false_eq_true, if_false, List.drop_left]

theorem pair_padded (h : n < 100) (rest : List Char) :
    pair ((padded 2 n).toList ++ rest) = some (n, rest) := by
  have hlen : (padded 2 n).toList.length = 2 := length_padded (by decide) h
  rw [pair, dropWhile_isBlank_padded, number_append (padded_ne_nil 2 n) (allDigits_padded 2 n)
    (Nat.le_of_eq hlen) (Or.inl hlen), ofDigits_padded]

theorem exactly_cons (c : Char) (rest : List Char) : exactly c (c :: rest) = some ((), rest) :=
  if_pos rfl

theorem read_blanks (rest : List Char) :
    Separator.blanks.read (' ' :: ((padded width n).toList ++ rest))
      = some ((), (padded width n).toList ++ rest) := by
  rw [Separator.read, List.dropWhile_cons_of_pos rfl, dropWhile_isBlank_padded]

/-- A signed year is read up to the hyphen, however many digits it has. -/
theorem number_signed (rest : List Char) :
    number ((padded width n).toList ++ '-' :: rest).length ((padded width n).toList ++ '-' :: rest)
      = some (n, '-' :: rest) := by
  rw [number_append (padded_ne_nil width n) (allDigits_padded width n) (by simp), ofDigits_padded]
  right
  intro c hc
  obtain rfl : '-' = c := Option.some.inj hc
  rfl

theorem year_yearText (y : Int) (rest : List Char) :
    year ((yearText y).toList ++ '-' :: rest) = some (y, '-' :: rest) := by
  unfold yearText
  split
  next h =>
    have hlen : (padded 4 y.toNat).toList.length = 4 := length_padded (by decide) (by omega)
    have hnumber : number 4 ((padded 4 y.toNat).toList ++ '-' :: rest)
        = some (y.toNat, '-' :: rest) := by
      rw [number_append (padded_ne_nil 4 _) (allDigits_padded 4 _) (Nat.le_of_eq hlen)
        (Or.inl hlen), ofDigits_padded]
    rw [year, dropWhile_isBlank_padded]
    -- a digit is no sign
    split
    next heq => exact absurd heq (padded_append_ne_cons rfl 4 _ _ _)
    next heq => exact absurd heq (padded_append_ne_cons rfl 4 _ _ _)
    next =>
      have hy : (y.toNat : Int) = y := Int.toNat_of_nonneg h.1
      simp only [hnumber, Option.map_some, hy]
  next h =>
    -- a sign, and then as many digits as there are
    rw [String.toList_append, List.append_assoc]
    split
    next hneg =>
      have hy : -(y.natAbs : Int) = y := by omega
      rw [show "-".toList = ['-'] from rfl, List.singleton_append, year,
        List.dropWhile_cons_of_neg (by decide)]
      simp only [number_signed, Option.map_some, hy]
    next hpos =>
      have hy : (y.natAbs : Int) = y := by omega
      rw [show "+".toList = ['+'] from rfl, List.singleton_append, year,
        List.dropWhile_cons_of_neg (by decide)]
      simp only [number_signed, Option.map_some, hy]

/-! ### The part of a second -/

/-- Digits after a point denote a number of units when zeros fill them up to nine. -/
theorem exists_point_digits {k n : Nat} (hpos : 0 < k) (hk : k ≤ 9) (h : n < 10 ^ k) :
    ∃ digits, ("." ++ padded k n).toList = '.' :: digits ∧ digits ≠ [] ∧ AllDigits digits ∧
      digits.length ≤ 9 ∧ ofDigits digits * 10 ^ (9 - digits.length) = n * 10 ^ (9 - k) := by
  have hlen : (padded k n).toList.length = k := length_padded hpos h
  refine ⟨(padded k n).toList, ?_, padded_ne_nil k n, allDigits_padded k n, by omega, ?_⟩
  · rw [String.toList_append]
    rfl
  · rw [ofDigits_padded, hlen]

/-- The digits of a part of a second; thousandths and millionths are written with fewer. -/
theorem exists_fraction_digits {nano : Nat} (hpos : nano ≠ 0) (h : nano < 1_000_000_000) :
    ∃ digits, (fractionText nano).toList = '.' :: digits ∧ digits ≠ [] ∧ AllDigits digits ∧
      digits.length ≤ 9 ∧ ofDigits digits * 10 ^ (9 - digits.length) = nano := by
  unfold fractionText
  rw [if_neg hpos]
  split
  next h6 =>
    have hvalue : nano = nano / 1_000_000 * 10 ^ (9 - 3) := by omega
    have hdigits := @exists_point_digits 3 (nano / 1_000_000) (by decide) (by decide) (by omega)
    rwa [← hvalue] at hdigits
  next h6 =>
    split
    next h3 =>
      have hvalue : nano = nano / 1000 * 10 ^ (9 - 6) := by omega
      have hdigits := @exists_point_digits 6 (nano / 1000) (by decide) (by decide) (by omega)
      rwa [← hvalue] at hdigits
    next h3 =>
      have hvalue : nano = nano * 10 ^ (9 - 9) := by omega
      have hdigits := @exists_point_digits 9 nano (by decide) (by decide) (by omega)
      rwa [← hvalue] at hdigits

theorem fraction_fractionText {nano : Nat} (h : nano < 1_000_000_000) :
    fraction (fractionText nano).toList = some (nano, []) := by
  by_cases hpos : nano = 0
  · subst hpos
    rfl
  · obtain ⟨digits, htext, hne, hdigits, hlen, hvalue⟩ := exists_fraction_digits hpos h
    have htake : digits.takeWhile Char.isDigit = digits := by
      rw [← List.append_nil digits, List.takeWhile_append_of_pos hdigits, List.takeWhile_nil]
    have hdrop : digits.dropWhile Char.isDigit = [] := by
      rw [← List.append_nil digits, List.dropWhile_append_of_pos hdigits, List.dropWhile_nil]
    have hempty : digits.isEmpty = false := by simpa using hne
    have hbillionths : billionths digits = nano := by
      rw [billionths, List.take_of_length_le hlen]
      exact hvalue
    rw [htext, fraction]
    simp only [htake, hdrop, hempty, hbillionths, Bool.false_eq_true, if_false]

/-! ### Whole moments -/

/-- The characters of a time of day, field by field. -/
def clockChars (m : Moment) : List Char :=
  (padded 2 (m.second / 3600)).toList ++
    ':' :: ((padded 2 (m.second / 60 % 60)).toList ++
    ':' :: ((padded 2 (m.second % 60 + m.nano / 1_000_000_000)).toList ++
      (fractionText (m.nano % 1_000_000_000)).toList))

/-- The characters of a stored moment, field by field. -/
theorem toList_storedText (m : Moment) :
    m.storedText.toList = (yearText m.date.year).toList ++
      '-' :: ((padded 2 m.date.month).toList ++
      '-' :: ((padded 2 m.date.day).toList ++ ' ' :: clockChars m)) := by
  have hhyphen : "-".toList = ['-'] := rfl
  have hblank : " ".toList = [' '] := rfl
  have hcolon : ":".toList = [':'] := rfl
  simp only [storedText, dateText, clockText, clockChars, String.toList_append, hhyphen, hblank,
    hcolon, List.append_assoc, List.cons_append, List.nil_append]

theorem ofNumbers?_date (d : Date) : Date.ofNumbers? d.year d.month d.day = some d :=
  dif_pos ⟨⟨d.month_pos, d.month_le⟩, d.day_pos, d.day_le⟩

/-- A leap second is written as second 60 and read as such. -/
theorem ofNumbers?_clock (m : Moment) :
    Moment.ofNumbers? m.date (m.second / 3600) (m.second / 60 % 60)
      (m.second % 60 + m.nano / 1_000_000_000) (m.nano % 1_000_000_000) = some m := by
  obtain ⟨date, second, nano, hsecond, hnano, hleap⟩ := m
  simp only [Moment.ofNumbers?]
  by_cases h : nano < 1_000_000_000
  · rw [dif_pos (by omega)]
    congr 2 <;> omega
  · have hend := hleap (by omega)
    rw [dif_neg (by omega), dif_pos (by omega)]
    congr 2 <;> omega

theorem moment_storedText (m : Moment) :
    moment .blanks m.storedText.toList = some (m, []) := by
  obtain ⟨hmonth, hday, hhour, hminute, hclock⟩ := m.fields_lt
  have hfraction := fraction_fractionText (Nat.mod_lt m.nano (by decide : 0 < 1_000_000_000))
  rw [toList_storedText, clockChars, moment]
  simp only [bind, year_yearText, Option.bind_some, exactly_cons, pair_padded hmonth,
    pair_padded hday, read_blanks, pair_padded hhour, pair_padded hminute, pair_padded hclock,
    hfraction, ofNumbers?_date, ofNumbers?_clock]

/-! ### The separator -/

/-- A character whose only byte is not that of the letter `T`. -/
def Plain (c : Char) : Prop := c.toNat ≤ 0x7f ∧ c ≠ 'T'

theorem AllDigits.plain {cs : List Char} (h : AllDigits cs) : ∀ c ∈ cs, Plain c := by
  intro c hc
  have hrange := toNat_of_isDigit (h c hc)
  refine ⟨by omega, ?_⟩
  rintro rfl
  exact absurd hrange.2 (by decide)

theorem Plain.utf8EncodeChar {c : Char} (h : Plain c) : 0x54 ∉ String.utf8EncodeChar c := by
  have hval : c.val.toNat ≤ 0x7f := h.1
  intro hmem
  unfold String.utf8EncodeChar at hmem
  simp only [hval, if_true, List.mem_singleton] at hmem
  have hcode : c.val.toNat = 0x54 := by
    have := congrArg UInt8.toNat hmem
    rw [UInt8.toNat_ofNat', Nat.mod_eq_of_lt (by omega)] at this
    exact this.symm
  exact h.2 (Char.toNat_inj.mp hcode)

theorem plain_yearText (y : Int) : ∀ c ∈ (yearText y).toList, Plain c := by
  have hdigits := fun n => AllDigits.plain (allDigits_padded 4 n)
  unfold yearText
  split
  · exact hdigits _
  · rw [String.toList_append]
    intro c hc
    rcases List.mem_append.mp hc with hc | hc
    · have hsign : c = '-' ∨ c = '+' := by
        split at hc
        · exact Or.inl (List.mem_singleton.mp hc)
        · exact Or.inr (List.mem_singleton.mp hc)
      rcases hsign with rfl | rfl <;> exact ⟨by decide, by decide⟩
    · exact hdigits _ c hc

theorem plain_fractionText {nano : Nat} (h : nano < 1_000_000_000) :
    ∀ c ∈ (fractionText nano).toList, Plain c := by
  by_cases hpos : nano = 0
  · subst hpos
    exact List.forall_mem_nil _
  · obtain ⟨digits, htext, -, hdigits, -⟩ := exists_fraction_digits hpos h
    rw [htext]
    exact List.forall_mem_cons.mpr ⟨⟨by decide, by decide⟩, AllDigits.plain hdigits⟩

theorem plain_storedText (m : Moment) : ∀ c ∈ m.storedText.toList, Plain c := by
  have hpair := fun n => AllDigits.plain (allDigits_padded 2 n)
  have hmark : ∀ c ∈ ['-', ' ', ':'], Plain c := by
    intro c hc
    simp only [List.mem_cons, List.not_mem_nil, or_false] at hc
    rcases hc with rfl | rfl | rfl <;> exact ⟨by decide, by decide⟩
  have hfraction := plain_fractionText (Nat.mod_lt m.nano (by decide : 0 < 1_000_000_000))
  rw [toList_storedText, clockChars]
  simp only [List.forall_mem_append, List.forall_mem_cons]
  exact ⟨plain_yearText _, hmark _ (by decide), hpair _, hmark _ (by decide), hpair _,
    hmark _ (by decide), hpair _, hmark _ (by decide), hpair _, hmark _ (by decide), hpair _,
    hfraction⟩

end StoredText

/-- **A stored moment is read back.** -/
theorem ofStoredText?_storedText (m : Moment) : ofStoredText? m.storedText = some m := by
  -- no byte of the text is that of the letter, so a blank is expected
  have hletter : (Text.utf8 m.storedText)[10]? ≠ some 0x54 := by
    intro h
    have hmem := List.mem_of_getElem? h
    rw [Text.utf8, List.mem_flatMap] at hmem
    obtain ⟨c, hc, hbyte⟩ := hmem
    exact (plain_storedText m c hc).utf8EncodeChar hbyte
  rw [ofStoredText?, if_neg hletter, parse, moment_storedText]

theorem storedText_injective {a b : Moment} (h : a.storedText = b.storedText) : a = b := by
  have hread := ofStoredText?_storedText a
  rw [h, ofStoredText?_storedText] at hread
  exact (Option.some.inj hread).symm

/-! ### Order -/

namespace StoredText

variable {width : Nat} {xs ys : List Char}

/-- A padded number decides, and what follows it only where the numbers agree. -/
theorem padded_append_lt {a b : Nat} (hw : 0 < width) (ha : a < 10 ^ width) (hb : b < 10 ^ width)
    (h : a < b ∨ a = b ∧ xs < ys) :
    (padded width a).toList ++ xs < (padded width b).toList ++ ys := by
  rcases h with hlt | ⟨rfl, htail⟩
  · have hlen : (padded width a).toList.length = (padded width b).toList.length := by
      rw [length_padded hw ha, length_padded hw hb]
    refine append_lt_append hlen ?_
    refine lt_of_ofDigits_lt (allDigits_padded width a) (allDigits_padded width b) hlen ?_
    rw [ofDigits_padded, ofDigits_padded]
    exact hlt
  · exact List.append_left_lt htail

/-- The same for two digits and a mark after them. -/
theorem pair_cons_lt {a b : Nat} (c : Char) (ha : a < 100) (hb : b < 100)
    (h : a < b ∨ a = b ∧ xs < ys) :
    (padded 2 a).toList ++ c :: xs < (padded 2 b).toList ++ c :: ys := by
  refine padded_append_lt (by decide) ha hb ?_
  exact h.imp_right fun ⟨hab, htail⟩ => ⟨hab, List.cons_lt_cons_iff.mpr (Or.inr ⟨rfl, htail⟩)⟩

/-- The shorter text of a rounder part of a second does not change the order. -/
theorem fractionText_lt {a b : Nat} (h : a < b) (hb : b < 1_000_000_000) :
    (fractionText a).toList < (fractionText b).toList := by
  obtain ⟨ys, hy, -, hydigits, hylen, hyvalue⟩ := exists_fraction_digits (by omega) hb
  rw [hy]
  by_cases ha : a = 0
  · subst ha
    exact List.nil_lt_cons _ _
  · obtain ⟨xs, hx, -, hxdigits, hxlen, hxvalue⟩ := exists_fraction_digits ha (by omega)
    rw [hx, List.cons_lt_cons_iff]
    refine Or.inr ⟨rfl, ?_⟩
    -- compared with zeros put in up to nine digits, which can be dropped again
    have hlen : xs.length + (9 - xs.length) = ys.length + (9 - ys.length) := by omega
    refine lt_of_append_zeros hxdigits hlen (lt_of_ofDigits_lt ?_ ?_ ?_ ?_)
    · exact hxdigits.append (allDigits_zeros _)
    · exact hydigits.append (allDigits_zeros _)
    · simp only [List.length_append, List.length_replicate]
      exact hlen
    · rw [ofDigits_append, ofDigits_append, ofDigits_zeros, ofDigits_zeros,
        List.length_replicate, List.length_replicate, hxvalue, hyvalue]
      omega

end StoredText

/-- A year that is written with four digits and no sign. -/
def HasPlainYear (m : Moment) : Prop := 0 ≤ m.date.year ∧ m.date.year ≤ 9999

variable {a b : Moment}

/-- The fields of a time of day, a leap second being the sixty-first. -/
theorem clock_lt (h : a.second < b.second ∨ a.second = b.second ∧ a.nano < b.nano) :
    a.second / 3600 < b.second / 3600 ∨ a.second / 3600 = b.second / 3600 ∧
      (a.second / 60 % 60 < b.second / 60 % 60 ∨ a.second / 60 % 60 = b.second / 60 % 60 ∧
        (a.second % 60 + a.nano / 1_000_000_000 < b.second % 60 + b.nano / 1_000_000_000 ∨
          a.second % 60 + a.nano / 1_000_000_000 = b.second % 60 + b.nano / 1_000_000_000 ∧
            a.nano % 1_000_000_000 < b.nano % 1_000_000_000)) := by
  have ha := a.leap_ends_minute
  have hnano := a.nano_lt
  have hnano' := b.nano_lt
  omega

theorem clockChars_lt (h : a.second < b.second ∨ a.second = b.second ∧ a.nano < b.nano) :
    clockChars a < clockChars b := by
  obtain ⟨-, -, hhour, hminute, hclock⟩ := a.fields_lt
  obtain ⟨-, -, hhour', hminute', hclock'⟩ := b.fields_lt
  refine pair_cons_lt ':' hhour hhour' ((clock_lt h).imp_right (And.imp_right fun h => ?_))
  refine pair_cons_lt ':' hminute hminute' (h.imp_right (And.imp_right fun h => ?_))
  refine padded_append_lt (by decide) hclock hclock' (h.imp_right (And.imp_right fun h => ?_))
  exact fractionText_lt h (Nat.mod_lt _ (by decide))

theorem yearText_of_hasPlainYear (h : a.HasPlainYear) :
    yearText a.date.year = padded 4 a.date.year.toNat := if_pos h

/-- Within a year, the fields after it decide; each decides unless it is the same. -/
theorem storedText_lt_of_year_eq (hyear : a.date.year = b.date.year) (h : a.Before b) :
    a.storedText < b.storedText := by
  obtain ⟨hmonth, hday, -⟩ := a.fields_lt
  obtain ⟨hmonth', hday', -⟩ := b.fields_lt
  have hfields : a.date.month < b.date.month ∨ a.date.month = b.date.month ∧
      (a.date.day < b.date.day ∨ a.date.day = b.date.day ∧ clockChars a < clockChars b) := by
    rcases h with (hlt | ⟨-, hmonth | ⟨hmonth, hday⟩⟩) | ⟨hdate, htime⟩
    · omega
    · exact Or.inl hmonth
    · exact Or.inr ⟨hmonth, Or.inl hday⟩
    · rw [hdate]
      exact Or.inr ⟨rfl, Or.inr ⟨rfl, clockChars_lt htime⟩⟩
  show a.storedText.toList < b.storedText.toList
  rw [toList_storedText, toList_storedText, hyear]
  refine List.append_left_lt (List.cons_lt_cons_iff.mpr (Or.inr ⟨rfl, ?_⟩))
  refine pair_cons_lt '-' hmonth hmonth' (hfields.imp_right (And.imp_right fun h => ?_))
  exact pair_cons_lt ' ' hday hday' h

theorem storedText_lt_of_before (ha : a.HasPlainYear) (hb : b.HasPlainYear) (h : a.Before b) :
    a.storedText < b.storedText := by
  rcases h.year_lt_or_eq with hyear | hyear
  · obtain ⟨hpos, hle⟩ := ha
    obtain ⟨hpos', hle'⟩ := hb
    show a.storedText.toList < b.storedText.toList
    rw [toList_storedText, toList_storedText, yearText_of_hasPlainYear ⟨hpos, hle⟩,
      yearText_of_hasPlainYear ⟨hpos', hle'⟩]
    exact padded_append_lt (by decide) (by omega) (by omega) (Or.inl (by omega))
  · exact storedText_lt_of_year_eq hyear h

/-- Where earlier moments have smaller texts, no others do. -/
theorem storedText_lt_iff_of_before (hab : a.Before b → a.storedText < b.storedText)
    (hba : b.Before a → b.storedText < a.storedText) :
    a.storedText < b.storedText ↔ a.rank < b.rank := by
  refine ⟨fun h => ?_, fun h => hab (rank_lt_iff.mp h)⟩
  rcases Int.lt_trichotomy a.rank b.rank with hlt | heq | hgt
  · exact hlt
  · rw [rank_injective heq] at h
    exact absurd h (String.lt_irrefl _)
  · have hgt' := hba (rank_lt_iff.mp hgt)
    exact absurd h (String.lt_asymm hgt')

/-- **Stored texts are in the order of moments**, for years of four digits. -/
theorem storedText_lt_iff (ha : a.HasPlainYear) (hb : b.HasPlainYear) :
    a.storedText < b.storedText ↔ a.rank < b.rank :=
  storedText_lt_iff_of_before (storedText_lt_of_before ha hb) (storedText_lt_of_before hb ha)

theorem storedText_le_iff (ha : a.HasPlainYear) (hb : b.HasPlainYear) :
    a.storedText ≤ b.storedText ↔ a ≤ b := by
  rw [← String.not_lt, storedText_lt_iff hb ha]
  exact Int.not_lt

/-! ### Years with a sign -/

namespace StoredText

theorem exists_yearText_of_neg {y : Int} (h : y < 0) : ∃ cs, (yearText y).toList = '-' :: cs := by
  refine ⟨(padded 4 y.natAbs).toList, ?_⟩
  rw [yearText, if_neg (by omega), if_pos h, String.toList_append]
  rfl

theorem exists_yearText_of_past {y : Int} (h : 9999 < y) :
    ∃ cs, (yearText y).toList = '+' :: cs := by
  refine ⟨(padded 4 y.natAbs).toList, ?_⟩
  rw [yearText, if_neg (by omega), if_neg (by omega), String.toList_append]
  rfl

theorem exists_yearText_of_plain {y : Int} (h : 0 ≤ y ∧ y ≤ 9999) :
    ∃ c cs, (yearText y).toList = c :: cs ∧ c.isDigit = true := by
  rw [yearText, if_pos h]
  exact exists_padded_eq_cons 4 y.toNat

end StoredText

/-- A different sign or digit in front decides. -/
theorem storedText_lt_of_head {c d : Char} {cs ds : List Char}
    (ha : (yearText a.date.year).toList = c :: cs) (hb : (yearText b.date.year).toList = d :: ds)
    (h : c.toNat < d.toNat) : a.storedText < b.storedText := by
  show a.storedText.toList < b.storedText.toList
  rw [toList_storedText, toList_storedText, ha, hb, List.cons_append, List.cons_append,
    List.cons_lt_cons_iff]
  exact Or.inl h

/-- A minus stands before the digits. -/
theorem storedText_lt_of_neg (ha : a.date.year < 0) (hb : b.HasPlainYear) :
    a.storedText < b.storedText := by
  obtain ⟨cs, hminus⟩ := exists_yearText_of_neg ha
  obtain ⟨d, ds, hdigit, hd⟩ := exists_yearText_of_plain hb
  exact storedText_lt_of_head hminus hdigit (Nat.lt_of_lt_of_le (by decide) (toNat_of_isDigit hd).1)

/-- A plus stands before the digits and before the minus, so **the years past 9999 come first.** -/
theorem storedText_lt_of_past (ha : 9999 < a.date.year) (hb : b.date.year ≤ 9999) :
    a.storedText < b.storedText := by
  obtain ⟨cs, hplus⟩ := exists_yearText_of_past ha
  by_cases hneg : b.date.year < 0
  · obtain ⟨ds, hminus⟩ := exists_yearText_of_neg hneg
    exact storedText_lt_of_head hplus hminus (by decide)
  · obtain ⟨d, ds, hdigit, hd⟩ := exists_yearText_of_plain ⟨Int.not_lt.mp hneg, hb⟩
    exact storedText_lt_of_head hplus hdigit
      (Nat.lt_of_lt_of_le (by decide) (toNat_of_isDigit hd).1)

/-- A year that an offset from UTC can make of a year of four digits. -/
def HasNearYear (m : Moment) : Prop := -1 ≤ m.date.year ∧ m.date.year ≤ 10000

theorem storedText_lt_of_before_of_near (ha : a.HasNearYear) (hb : b.HasNearYear)
    (hside : a.date.year ≤ 9999 ↔ b.date.year ≤ 9999) (h : a.Before b) :
    a.storedText < b.storedText := by
  obtain ⟨hge, hle⟩ := ha
  obtain ⟨hge', hle'⟩ := hb
  rcases h.year_lt_or_eq with hyear | hyear
  · have hb' : b.HasPlainYear := ⟨by omega, by omega⟩
    by_cases hneg : a.date.year < 0
    · exact storedText_lt_of_neg hneg hb'
    · exact storedText_lt_of_before ⟨Int.not_lt.mp hneg, by omega⟩ hb' h
  · exact storedText_lt_of_year_eq hyear h

/-- On either side of the end of the year 9999, stored texts are in the order of moments. -/
theorem storedText_le_iff_of_near (ha : a.HasNearYear) (hb : b.HasNearYear)
    (hside : a.date.year ≤ 9999 ↔ b.date.year ≤ 9999) : a.storedText ≤ b.storedText ↔ a ≤ b := by
  rw [← String.not_lt, storedText_lt_iff_of_before
    (storedText_lt_of_before_of_near hb ha hside.symm) (storedText_lt_of_before_of_near ha hb hside)]
  exact Int.not_lt

end SmartPlaylist.Moment

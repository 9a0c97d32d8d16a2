import Mathlib.Algebra.Ring.Nat
import SmartPlaylist.Decimal.Natural
import SmartPlaylist.Decimal.Shortest

/-!
# Lists of decimal digits

Digits of the same number are in the order of the numbers that they denote.  Digits after a point
may lack their last zeros; those that were cut off do not change the order either.

## Main definitions

* `AllDigits` — nothing but digits.
* `Denotes` — a text is a number of 64 bits.

## Main results

* `ofDigits_append`, `ofDigits_toDigits` — the number of a text of digits.
* `natural?_eq_some_iff` — the texts that are read as numbers.
* `lt_of_ofDigits_lt` — **digits are in the order of numbers.**
* `lt_of_append_zeros` — zeros at the end can be dropped.
-/

namespace SmartPlaylist.Decimal

variable {xs ys : List Char}

/-- Nothing but decimal digits. -/
def AllDigits (cs : List Char) : Prop := ∀ c ∈ cs, c.isDigit = true

theorem AllDigits.append (hx : AllDigits xs) (hy : AllDigits ys) : AllDigits (xs ++ ys) := by
  intro c hc
  rcases List.mem_append.mp hc with hc | hc
  · exact hx c hc
  · exact hy c hc

theorem allDigits_zeros (k : Nat) : AllDigits (List.replicate k '0') := by
  intro c hc
  rw [List.eq_of_mem_replicate hc]
  rfl

theorem allDigits_toDigits (n : Nat) : AllDigits (Nat.toDigits 10 n) :=
  fun _ => Nat.isDigit_of_mem_toDigits (by decide) (by decide)

/-! ### The number of some digits -/

theorem ofDigits_eq_ofDigitChars (cs : List Char) : ofDigits cs = Nat.ofDigitChars 10 cs 0 := by
  rw [ofDigits, Nat.ofDigitChars_eq_foldl]
  simp only [Nat.mul_comm]

theorem ofDigits_append (xs ys : List Char) :
    ofDigits (xs ++ ys) = ofDigits xs * 10 ^ ys.length + ofDigits ys := by
  simp only [ofDigits_eq_ofDigitChars]
  rw [Nat.ofDigitChars_append, Nat.ofDigitChars_eq_ofDigitChars_zero, Nat.mul_comm]

theorem ofDigits_cons (c : Char) (cs : List Char) :
    ofDigits (c :: cs) = (c.toNat - '0'.toNat) * 10 ^ cs.length + ofDigits cs := by
  have h := ofDigits_append [c] cs
  rwa [List.singleton_append, show ofDigits [c] = c.toNat - '0'.toNat by simp [ofDigits]] at h

theorem ofDigits_toDigits (n : Nat) : ofDigits (Nat.toDigits 10 n) = n := by
  rw [ofDigits_eq_ofDigitChars, Nat.ofDigitChars_ten_toDigits]

theorem ofDigits_zeros (k : Nat) : ofDigits (List.replicate k '0') = 0 := by
  rw [ofDigits_eq_ofDigitChars, Nat.ofDigitChars_replicate_zero, Nat.mul_zero]

theorem toNat_of_isDigit {c : Char} (h : c.isDigit = true) : 48 ≤ c.toNat ∧ c.toNat ≤ 57 := by
  simp only [Char.isDigit, Bool.and_eq_true, decide_eq_true_eq] at h
  exact ⟨h.1, h.2⟩

theorem ofDigits_lt (h : AllDigits xs) : ofDigits xs < 10 ^ xs.length := by
  induction xs with
  | nil => decide
  | cons c cs ih =>
    have hc := toNat_of_isDigit (h c (List.mem_cons_self ..))
    have hcs := ih fun d hd => h d (List.mem_cons_of_mem _ hd)
    rw [ofDigits_cons, List.length_cons, Nat.pow_succ]
    have hzero : '0'.toNat = 48 := rfl
    have hdigit : (c.toNat - '0'.toNat) * 10 ^ cs.length ≤ 9 * 10 ^ cs.length :=
      Nat.mul_le_mul_right _ (by omega)
    omega

/-! ### The number of a text -/

/-- The text is a number below `2 ^ 64`: decimal digits, at least one of them, with at most one plus
sign before them. -/
def Denotes (s : String) (n : Nat) : Prop :=
  ∃ digits, (s.toList = digits ∨ s.toList = '+' :: digits) ∧ digits ≠ [] ∧ AllDigits digits ∧
    ofDigits digits = n ∧ n < 2 ^ 64

/-- A plus sign is no digit, so it is cut off whenever it is there. -/
theorem AllDigits.ne_plus_cons (h : AllDigits xs) (rest : List Char) : xs ≠ '+' :: rest := by
  rintro rfl
  exact absurd (h '+' (List.mem_cons_self ..)) (by decide)

/-- What is read when the sign is cut off. -/
theorem unsigned_eq_some_iff {n : Nat} :
    (if xs.isEmpty || !xs.all Char.isDigit then none
      else if ofDigits xs < 0x1_0000_0000_0000_0000 then some (ofDigits xs)
      else none) = some n ↔
      xs ≠ [] ∧ AllDigits xs ∧ ofDigits xs = n ∧ n < 2 ^ 64 := by
  have hall : xs.all Char.isDigit = true ↔ AllDigits xs := List.all_eq_true
  by_cases hfit : xs ≠ [] ∧ AllDigits xs
  · have hgood : ¬(xs.isEmpty || !xs.all Char.isDigit) = true := by
      simp [hfit.1, hall.mpr hfit.2]
    rw [if_neg hgood]
    constructor
    · intro h
      split at h
      · obtain rfl := Option.some.inj h
        exact ⟨hfit.1, hfit.2, rfl, ‹_›⟩
      · exact absurd h nofun
    · rintro ⟨-, -, rfl, hlt⟩
      exact if_pos hlt
  · have hbad : (xs.isEmpty || !xs.all Char.isDigit) = true := by
      by_contra hgood
      simp only [Bool.or_eq_true, List.isEmpty_iff, Bool.not_eq_true', not_or,
        Bool.not_eq_false, hall] at hgood
      exact hfit hgood
    rw [if_pos hbad]
    exact iff_of_false nofun fun h => hfit ⟨h.1, h.2.1⟩

/-- **The texts that are read as numbers.** -/
theorem natural?_eq_some_iff {s : String} {n : Nat} : natural? s = some n ↔ Denotes s n := by
  unfold natural?
  split
  next rest hplus =>
    rw [unsigned_eq_some_iff]
    constructor
    · intro h
      exact ⟨rest, .inr hplus, h⟩
    · rintro ⟨digits, hs | hs, hne, hdigits, h⟩
      · exact absurd (hs.symm.trans hplus) (hdigits.ne_plus_cons rest)
      · obtain rfl : rest = digits := (List.cons_inj_right _).mp (hplus.symm.trans hs)
        exact ⟨hne, hdigits, h⟩
  next hplain =>
    rw [unsigned_eq_some_iff]
    constructor
    · intro h
      exact ⟨_, .inl rfl, h⟩
    · rintro ⟨digits, rfl | hs, h⟩
      · exact h
      · exact absurd hs (hplain digits)

/-! ### Order -/

/-- **Digits are in the order of numbers.** -/
theorem lt_of_ofDigits_lt (hx : AllDigits xs) (hy : AllDigits ys) (hlen : xs.length = ys.length)
    (h : ofDigits xs < ofDigits ys) : xs < ys := by
  induction xs generalizing ys with
  | nil =>
    rw [List.length_nil, eq_comm, List.length_eq_zero_iff] at hlen
    subst hlen
    exact absurd h (Nat.lt_irrefl _)
  | cons c cs ih =>
    match ys, hlen with
    | d :: ds, hlen =>
      have hlen' : cs.length = ds.length := Nat.succ.inj hlen
      have hcs : AllDigits cs := fun e he => hx e (List.mem_cons_of_mem _ he)
      have hds : AllDigits ds := fun e he => hy e (List.mem_cons_of_mem _ he)
      have hc := toNat_of_isDigit (hx c (List.mem_cons_self ..))
      have hd := toNat_of_isDigit (hy d (List.mem_cons_self ..))
      have hzero : '0'.toNat = 48 := rfl
      rw [ofDigits_cons, ofDigits_cons, hlen'] at h
      rw [List.cons_lt_cons_iff]
      rcases Nat.lt_trichotomy c.toNat d.toNat with hlt | heq | hgt
      · exact Or.inl hlt
      · right
        refine ⟨Char.toNat_inj.mp heq, ih hcs hds hlen' ?_⟩
        rw [heq] at h
        omega
      · -- the first digit outweighs all that follow it
        have hlow : ofDigits ds < 10 ^ ds.length := ofDigits_lt hds
        have hmul : (d.toNat - '0'.toNat + 1) * 10 ^ ds.length
            ≤ (c.toNat - '0'.toNat) * 10 ^ ds.length := Nat.mul_le_mul_right _ (by omega)
        rw [Nat.add_mul] at hmul
        omega

/-- Among texts of one length the order does not depend on what follows. -/
theorem append_lt_append {s t : List Char} (hlen : xs.length = ys.length) (h : xs < ys) :
    xs ++ s < ys ++ t := by
  induction xs generalizing ys with
  | nil =>
    rw [List.length_nil, eq_comm, List.length_eq_zero_iff] at hlen
    subst hlen
    exact absurd h (List.lt_irrefl _)
  | cons c cs ih =>
    match ys, hlen with
    | d :: ds, hlen =>
      rw [List.cons_lt_cons_iff] at h
      rw [List.cons_append, List.cons_append, List.cons_lt_cons_iff]
      exact h.imp_right fun ⟨hcd, hrest⟩ => ⟨hcd, ih (Nat.succ.inj hlen) hrest⟩

/-- No digits come before as many zeros. -/
theorem not_lt_zeros (hx : AllDigits xs) : ¬xs < List.replicate xs.length '0' := by
  induction xs with
  | nil => exact List.lt_irrefl _
  | cons c cs ih =>
    have hc := toNat_of_isDigit (hx c (List.mem_cons_self ..))
    rw [List.length_cons, List.replicate_succ, List.cons_lt_cons_iff]
    rintro (hlt | ⟨-, hlt⟩)
    · have hlt' : c.toNat < '0'.toNat := hlt
      have hzero : '0'.toNat = 48 := rfl
      omega
    · exact ih (fun d hd => hx d (List.mem_cons_of_mem _ hd)) hlt

/-- Zeros at the end can be dropped. -/
theorem lt_of_append_zeros {k l : Nat} (hx : AllDigits xs) (hlen : xs.length + k = ys.length + l)
    (h : xs ++ List.replicate k '0' < ys ++ List.replicate l '0') : xs < ys := by
  induction xs generalizing ys with
  | nil =>
    cases ys with
    | nil =>
      obtain rfl : k = l := by simpa using hlen
      exact absurd h (List.lt_irrefl _)
    | cons d ds => exact List.nil_lt_cons _ _
  | cons c cs ih =>
    cases ys with
    | nil =>
      have hdigits : AllDigits (c :: cs ++ List.replicate k '0') :=
        hx.append (allDigits_zeros k)
      have hl : l = (c :: cs ++ List.replicate k '0').length := by
        simp only [List.length_append, List.length_replicate]
        simpa using hlen.symm
      rw [List.nil_append, hl] at h
      exact absurd h (not_lt_zeros hdigits)
    | cons d ds =>
      rw [List.cons_append, List.cons_append, List.cons_lt_cons_iff] at h
      rw [List.cons_lt_cons_iff]
      refine h.imp_right fun ⟨hcd, hrest⟩ => ⟨hcd, ih ?_ ?_ hrest⟩
      · exact fun e he => hx e (List.mem_cons_of_mem _ he)
      · simp only [List.length_cons] at hlen
        omega

end SmartPlaylist.Decimal

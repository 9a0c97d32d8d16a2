import Mathlib.Algebra.Order.Field.Power
import Mathlib.Algebra.Order.Field.Rat
import Mathlib.Order.WithBot
import Mathlib.Tactic.NormNum
import Mathlib.Tactic.Positivity
import Mathlib.Tactic.Ring
import SmartPlaylist.Store.Cell

/-!
# Places are exact numbers

A double stands for a rational number, `± significand * 2 ^ exponent`, or for an infinity; NaN
stands for none.  A place counts units of `2 ^ -1074` and so stands for a rational number too.  Here
both readings are shown to agree, and the order of places to be the order of the rationals: bounds
and stored values are compared as the exact numbers they stand for, whole numbers included.

## Main definitions

* `Extended` — the rational numbers with two ends.
* `Cell.extended?` — the number that a stored value stands for; a text and NaN stand for none.

## Main results

* `Place.le_iff_exact_le` — the order of places is that of the numbers.
* `map_exact_ofFloat?` — the place of a double is its exact value.
* `Cell.atLeast_iff`, `Cell.atMost_iff` — **bounds are compared as exact numbers.**
-/

namespace SmartPlaylist

open Float.Model (UnpackedFloat Format)
open Float.Model.UnpackedFloat

/-- The rational numbers, with an end below and an end above them. -/
abbrev Extended := WithBot (WithTop ℚ)

/-- A rational number among them. -/
def Extended.ofRat (q : ℚ) : Extended := ((q : WithTop ℚ) : WithBot (WithTop ℚ))

theorem Extended.ofRat_le_ofRat {a b : ℚ} : ofRat a ≤ ofRat b ↔ a ≤ b := by
  rw [ofRat, ofRat, WithBot.coe_le_coe, WithTop.coe_le_coe]

theorem Extended.bot_lt_ofRat (q : ℚ) : ⊥ < ofRat q := WithBot.bot_lt_coe _

theorem Extended.ofRat_lt_top (q : ℚ) : ofRat q < ⊤ := by
  rw [ofRat, ← WithBot.coe_top, WithBot.coe_lt_coe]
  exact WithTop.coe_lt_top q

/-! ### Places -/

/-- The number at a place. -/
def Place.exact : Place → Extended
  | .bottom => ⊥
  | .at units => .ofRat (units * 2 ^ (-1074 : ℤ))
  | .top => ⊤

/-- The order of places is that of the numbers. -/
theorem Place.le_iff_exact_le (p q : Place) : p ≤ q ↔ p.exact ≤ q.exact := by
  cases p with
  | bottom => exact iff_of_true rfl bot_le
  | «at» a =>
    cases q with
    | bottom => exact iff_of_false Bool.noConfusion (Extended.bot_lt_ofRat _).not_ge
    | «at» b =>
      rw [at_le_at, exact, exact, Extended.ofRat_le_ofRat, mul_le_mul_iff_left₀ (by positivity)]
      exact Int.cast_le.symm
    | top => exact iff_of_true rfl le_top
  | top =>
    cases q with
    | bottom => exact iff_of_false Bool.noConfusion bot_lt_top.not_ge
    | «at» b => exact iff_of_false Bool.noConfusion (Extended.ofRat_lt_top _).not_ge
    | top => exact iff_of_true rfl le_rfl

/-- A whole number of units is a whole number. -/
theorem Place.units_mul (n : ℤ) (k : ℕ) :
    ((n * (Nat.pow 2 k : ℕ) : ℤ) : ℚ) * 2 ^ (-(k : ℤ)) = n := by
  rw [Nat.pow_eq, zpow_neg, zpow_natCast, Int.cast_mul, Int.cast_natCast, Nat.cast_pow,
    Nat.cast_ofNat, mul_assoc, mul_inv_cancel₀ (pow_ne_zero k two_ne_zero), mul_one]

/-- The number at the place of a whole number. -/
theorem Place.exact_ofInt (n : ℤ) : (ofInt n).exact = .ofRat n := by
  rw [ofInt, exact]
  -- the power is too large to be computed
  generalize hk : (1074 : ℕ) = k
  have hcast : (-1074 : ℤ) = -(k : ℤ) := by rw [← hk, Nat.cast_ofNat]
  rw [hcast, units_mul]

/-! ### The exact value of a double -/

/-- The number that an unpacked double stands for. -/
def unpackedExtended? : UnpackedFloat → Option Extended
  | .infinity .negative => some ⊥
  | .infinity .positive => some ⊤
  | .notANumber => none
  | .zero _ => some (.ofRat 0)
  | .finite sign significand exponent _ =>
    some (.ofRat ((sign.apply significand : ℤ) * 2 ^ exponent))

/-- The number that a double stands for. -/
def extended? (x : Float) : Option Extended := unpackedExtended? x.toModel.unpack

/-- A significand and an exponent with a sign. -/
def signed (negative : Bool) (significand : ℕ) (exponent : ℤ) : ℚ :=
  ((if negative then -(significand : ℤ) else significand : ℤ) : ℚ) * 2 ^ exponent

/-- The number that the fields of a double stand for. -/
def fieldsExtended? (negative : Bool) (field fraction : ℕ) : Option Extended :=
  if field = 2047 then
    if fraction = 0 then some (if negative then ⊥ else ⊤) else none
  else if field = 0 then some (.ofRat (signed negative fraction (-1074)))
  else some (.ofRat (signed negative (2 ^ 52 + fraction) (field - 1075)))

theorem signed_zero (negative : Bool) (exponent : ℤ) : signed negative 0 exponent = 0 := by
  cases negative <;> simp [signed]

theorem unpackedExtended?_finite {negative : Bool} {sign : Sign} {significand : ℕ} {exponent : ℤ}
    (h : 0 < significand) (hsign : sign = if negative then .negative else .positive) :
    unpackedExtended? (.finite sign significand exponent h)
      = some (.ofRat (signed negative significand exponent)) := by
  subst hsign
  cases negative <;> rfl

section fields

variable (b : BitVec 64)

theorem toNat_unpackMantissa :
    (@unpackMantissa .binary64 b).toNat = b.toNat % 2 ^ 52 := by
  simp [unpackMantissa]

theorem toNat_unpackExponent :
    (@unpackExponent .binary64 b).toNat = b.toNat / 2 ^ 52 % 2 ^ 11 := by
  simp [unpackExponent, Nat.shiftRight_eq_div_pow]

theorem sign_unpackSign :
    Sign.ofBitVec (@unpackSign .binary64 b)
      = if b.toNat / 2 ^ 63 == 1 then .negative else .positive := by
  have hsign : (@unpackSign .binary64 b).toNat = b.toNat / 2 ^ 63 := by
    have hlt : b.toNat / 2 ^ 63 < 2 := Nat.div_lt_of_lt_mul b.isLt
    delta unpackSign
    rw [BitVec.toNat_cast, BitVec.extractLsb_toNat, Nat.shiftRight_eq_div_pow]
    exact Nat.mod_eq_of_lt hlt
  rw [← hsign]
  rcases BitVec.eq_zero_or_eq_one (@unpackSign .binary64 b) with h | h <;>
    rw [h] <;> rfl

theorem unpackedExtended?_unpack :
    unpackedExtended? (unpack Format.binary64 b)
      = fieldsExtended? (b.toNat / 2 ^ 63 == 1) (b.toNat / 2 ^ 52 % 2 ^ 11) (b.toNat % 2 ^ 52) := by
  have hm := toNat_unpackMantissa b
  have he := toNat_unpackExponent b
  have htop : @unpackExponent .binary64 b = -1#11 ↔
      b.toNat / 2 ^ 52 % 2 ^ 11 = 2047 := by
    rw [← BitVec.toNat_inj, he]; rfl
  have hbottom : @unpackExponent .binary64 b = 0#11 ↔
      b.toNat / 2 ^ 52 % 2 ^ 11 = 0 := by
    rw [← BitVec.toNat_inj, he]; rfl
  have hzero : @unpackMantissa .binary64 b = 0#52 ↔ b.toNat % 2 ^ 52 = 0 := by
    rw [← BitVec.toNat_inj, hm]; rfl
  -- the leading bit of a normal double is not stored
  have hlead : (1#1 ++ @unpackMantissa .binary64 b).toNat
      = 2 ^ 52 + b.toNat % 2 ^ 52 := by
    rw [BitVec.toNat_append, hm, ← Nat.shiftLeft_add_eq_or_of_lt (Nat.mod_lt _ (by decide))]
    rfl
  -- both sides tell apart infinities and NaN, subnormal numbers and zero, and normal numbers
  unfold unpack fieldsExtended?
  by_cases h2047 : b.toNat / 2 ^ 52 % 2 ^ 11 = 2047
  · rw [if_pos (htop.mpr h2047), if_pos h2047]
    by_cases h0 : b.toNat % 2 ^ 52 = 0
    · rw [if_pos (hzero.mpr h0), if_pos h0, sign_unpackSign]
      cases b.toNat / 2 ^ 63 == 1 <;> rfl
    · rw [if_neg (mt hzero.mp h0), if_neg h0]
      rfl
  · rw [if_neg (mt htop.mp h2047), if_neg h2047]
    by_cases hfield : b.toNat / 2 ^ 52 % 2 ^ 11 = 0
    · rw [if_pos (hbottom.mpr hfield), if_pos hfield]
      by_cases h0 : b.toNat % 2 ^ 52 = 0
      · rw [dif_pos (hzero.mpr h0), h0, signed_zero]
        rfl
      · rw [dif_neg (mt hzero.mp h0), unpackedExtended?_finite _ (sign_unpackSign b), hm, he,
          hfield]
        rfl
    · rw [if_neg (mt hbottom.mp hfield), if_neg hfield,
        unpackedExtended?_finite _ (sign_unpackSign b), hlead, he]
      rfl

end fields

theorem extended?_eq_fieldsExtended? (x : Float) :
    extended? x = fieldsExtended? (x.toBits.toNat / 2 ^ 63 == 1) (x.toBits.toNat / 2 ^ 52 % 2 ^ 11)
      (x.toBits.toNat % 2 ^ 52) :=
  unpackedExtended?_unpack x.toModel.toBits.toBitVec

theorem isNaN_iff (x : Float) : x.isNaN = true ↔ extended? x = none := by
  show x.toModel.unpack.isNaN = true ↔ unpackedExtended? x.toModel.unpack = none
  cases x.toModel.unpack with
  | infinity sign =>
    cases sign <;> exact iff_of_false Bool.false_ne_true (Option.some_ne_none _)
  | notANumber => exact iff_of_true rfl rfl
  | zero sign => exact iff_of_false Bool.false_ne_true (Option.some_ne_none _)
  | finite sign significand exponent h =>
    exact iff_of_false Bool.false_ne_true (Option.some_ne_none _)

/-! ### The place of a double -/

/-- Scaling a significand to units loses nothing, as no double has a smaller exponent. -/
theorem exact_at (negative : Bool) (significand : ℕ) {exponent : ℤ} (h : -1074 ≤ exponent) :
    (Place.at (if negative then -((significand * Nat.pow 2 (exponent + 1074).toNat : ℕ) : ℤ)
        else ((significand * Nat.pow 2 (exponent + 1074).toNat : ℕ) : ℤ))).exact
      = .ofRat (signed negative significand exponent) := by
  have hpow : (2 : ℚ) ^ (exponent + 1074).toNat * 2 ^ (-1074 : ℤ) = 2 ^ exponent := by
    rw [← zpow_natCast, ← zpow_add₀ (by norm_num), Int.toNat_of_nonneg (by omega)]
    congr 1
    ring
  have hunits : ((significand * Nat.pow 2 (exponent + 1074).toNat : ℕ) : ℚ) * 2 ^ (-1074 : ℤ)
      = significand * 2 ^ exponent := by
    rw [Nat.pow_eq, Nat.cast_mul, Nat.cast_pow, Nat.cast_ofNat, mul_assoc, hpow]
  cases negative
  · simp only [Place.exact, signed, Bool.false_eq_true, if_false]
    rw [Int.cast_natCast, hunits, Int.cast_natCast]
  · simp only [Place.exact, signed, if_true]
    rw [Int.cast_neg, Int.cast_natCast, neg_mul, hunits, Int.cast_neg, Int.cast_natCast, neg_mul]

section place

variable {x : Float}

theorem ofFloat?_of_field_top (h : x.toBits.toNat / 2 ^ 52 % 2 ^ 11 = 2047) :
    Place.ofFloat? x = if x.isNaN then none
      else if x.toBits.toNat / 2 ^ 63 == 1 then some .bottom else some .top := by
  have hnone : Decimal.Binary.ofFloat x = none := if_pos (beq_iff_eq.mpr h)
  simp only [Place.ofFloat?, hnone]
  rfl

theorem exact_ofFloat?_of_field_zero (h : x.toBits.toNat / 2 ^ 52 % 2 ^ 11 = 0) :
    (Place.ofFloat? x).map Place.exact
      = some (.ofRat
          (signed (x.toBits.toNat / 2 ^ 63 == 1) (x.toBits.toNat % 2 ^ 52) (-1074))) := by
  have htop : ¬(x.toBits.toNat / 2 ^ 52 % 2 ^ 11 == 2047) = true := by
    rw [h]; decide
  have hsome : Decimal.Binary.ofFloat x
      = some ⟨x.toBits.toNat / 2 ^ 63 == 1, x.toBits.toNat % 2 ^ 52, -1074, false⟩ :=
    (if_neg htop).trans (if_pos (beq_iff_eq.mpr h))
  simp only [Place.ofFloat?, hsome]
  rw [Option.map_some, exact_at _ _ le_rfl]

theorem exact_ofFloat?_of_field_between (htop : x.toBits.toNat / 2 ^ 52 % 2 ^ 11 ≠ 2047)
    (hzero : x.toBits.toNat / 2 ^ 52 % 2 ^ 11 ≠ 0) :
    (Place.ofFloat? x).map Place.exact
      = some (.ofRat (signed (x.toBits.toNat / 2 ^ 63 == 1) (2 ^ 52 + x.toBits.toNat % 2 ^ 52)
          ((x.toBits.toNat / 2 ^ 52 % 2 ^ 11 : ℕ) - 1075))) := by
  have hsome : ∃ close, Decimal.Binary.ofFloat x = some ⟨x.toBits.toNat / 2 ^ 63 == 1,
      2 ^ 52 + x.toBits.toNat % 2 ^ 52, (x.toBits.toNat / 2 ^ 52 % 2 ^ 11 : ℕ) - 1075, close⟩ :=
    ⟨_, (if_neg (mt beq_iff_eq.mp htop)).trans (if_neg (mt beq_iff_eq.mp hzero))⟩
  obtain ⟨close, hsome⟩ := hsome
  simp only [Place.ofFloat?, hsome]
  rw [Option.map_some, exact_at _ _ (by omega)]

end place

/-- The place of a double is its exact value. -/
theorem map_exact_ofFloat? (x : Float) : (Place.ofFloat? x).map Place.exact = extended? x := by
  have hnan := isNaN_iff x
  rw [extended?_eq_fieldsExtended?] at hnan ⊢
  unfold fieldsExtended? at hnan ⊢
  by_cases htop : x.toBits.toNat / 2 ^ 52 % 2 ^ 11 = 2047
  · rw [if_pos htop] at hnan ⊢
    rw [ofFloat?_of_field_top htop]
    by_cases hfrac : x.toBits.toNat % 2 ^ 52 = 0
    · rw [if_pos hfrac] at hnan ⊢
      rw [if_neg fun h => Option.some_ne_none _ (hnan.mp h)]
      cases x.toBits.toNat / 2 ^ 63 == 1 <;> rfl
    · rw [if_neg hfrac] at hnan ⊢
      rw [if_pos (hnan.mpr rfl)]
      rfl
  · rw [if_neg htop]
    by_cases hzero : x.toBits.toNat / 2 ^ 52 % 2 ^ 11 = 0
    · rw [if_pos hzero, exact_ofFloat?_of_field_zero hzero]
    · rw [if_neg hzero, exact_ofFloat?_of_field_between htop hzero]

/-! ### Stored values -/

namespace Cell

/-- The number that a stored value stands for. -/
def extended? : Cell → Option Extended
  | .text _ => none
  | .real x => SmartPlaylist.extended? x
  | .whole n => some (.ofRat n.toInt)

theorem map_exact_place? (c : Cell) : c.place?.map Place.exact = c.extended? := by
  cases c with
  | text s => rfl
  | real x => exact map_exact_ofFloat? x
  | whole n => exact congrArg some (Place.exact_ofInt n.toInt)

/-- **A number lies at or above a bound when it does so exactly.** -/
theorem atLeast_iff {c : Cell} (hc : ∀ s, c ≠ .text s) (bound : Float) :
    c.atLeast bound = true ↔
      ∃ low v, SmartPlaylist.extended? bound = some low ∧ c.extended? = some v ∧ low ≤ v := by
  rw [← map_exact_ofFloat?, ← map_exact_place?]
  unfold atLeast
  cases Place.ofFloat? bound with
  | none => simp
  | some low =>
    cases c.place? with
    | some p => simp [Place.le_iff_exact_le]
    | none =>
      cases c with
      | text s => exact absurd rfl (hc s)
      | real x => simp
      | whole n => simp

/-- **A number lies at or below a bound when it does so exactly.** -/
theorem atMost_iff (c : Cell) (bound : Float) :
    c.atMost bound = true ↔
      ∃ high v, SmartPlaylist.extended? bound = some high ∧ c.extended? = some v ∧ v ≤ high := by
  rw [← map_exact_ofFloat?, ← map_exact_place?]
  unfold atMost
  cases Place.ofFloat? bound with
  | none => simp
  | some high =>
    cases c.place? with
    | some p => simp [Place.le_iff_exact_le]
    | none => simp

end Cell

end SmartPlaylist

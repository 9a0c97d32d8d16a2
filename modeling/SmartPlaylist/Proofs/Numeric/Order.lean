import Mathlib
import SmartPlaylist.Json.Basic

/-!
# The order of doubles

Every comparison with NaN fails, so in general a double that is not above another need not be at or
below it.  Numbers of JSON are never NaN, and among doubles that are not, the order is total.

## Main results

* `Numeric.compare_swap` — two doubles compare the other way round when they change places.
* `Numeric.not_lt_iff` — **among doubles that are not NaN, what is not above is at or below.**
* `Json.Number.isNaN_toFloat` — no number of JSON is NaN.
-/

namespace SmartPlaylist

open Float.Model (UnpackedFloat Format)
open Float.Model.UnpackedFloat

namespace Numeric

/-! ### Comparison -/

/-- Two doubles compare the other way round when they change places. -/
theorem compare_swap (a b : UnpackedFloat) :
    UnpackedFloat.compare b a = (UnpackedFloat.compare a b).map Ordering.swap := by
  rcases a with ⟨⟨⟩⟩ | _ | ⟨⟨⟩⟩ | ⟨⟨⟩, m, e, hm⟩ <;>
    rcases b with ⟨⟨⟩⟩ | _ | ⟨⟨⟩⟩ | ⟨⟨⟩, n, f, hn⟩ <;> try rfl
  -- two numbers of one sign are left, which are compared by exponent and significand
  all_goals
    simp only [UnpackedFloat.compare, Option.map_some, Ordering.swap_then, Int.compare_swap,
      Nat.compare_swap]

/-- Only NaN cannot be compared. -/
theorem compare_ne_none {a b : UnpackedFloat} (ha : a.isNaN = false) (hb : b.isNaN = false) :
    UnpackedFloat.compare a b ≠ none := by
  rcases a with ⟨⟨⟩⟩ | _ | ⟨⟨⟩⟩ | ⟨⟨⟩, m, e, hm⟩ <;>
    rcases b with ⟨⟨⟩⟩ | _ | ⟨⟨⟩⟩ | ⟨⟨⟩, n, f, hn⟩ <;>
    simp_all [UnpackedFloat.compare, UnpackedFloat.isNaN]

/-- **Among doubles that are not NaN, what is not above is at or below.** -/
theorem not_lt_iff {x y : Float} (hx : x.isNaN = false) (hy : y.isNaN = false) :
    ¬y < x ↔ x ≤ y := by
  have hlt : y < x ↔ y.toModel.unpack.lt x.toModel.unpack = true :=
    decide_eq_true_iff (p := y.toModel < x.toModel)
  have hle : x ≤ y ↔ x.toModel.unpack.le y.toModel.unpack = true :=
    decide_eq_true_iff (p := x.toModel ≤ y.toModel)
  rw [hlt, hle, UnpackedFloat.lt, UnpackedFloat.le,
    compare_swap x.toModel.unpack y.toModel.unpack]
  cases h : UnpackedFloat.compare x.toModel.unpack y.toModel.unpack with
  | none => exact absurd h (compare_ne_none hx hy)
  | some o => cases o <;> decide

/-! ### Doubles that are not NaN -/

/-- NaN has the highest exponent, and a fraction. -/
theorem isNaN_unpack_iff (b : BitVec Format.binary64.numBits) :
    (unpack Format.binary64 b).isNaN = true ↔
      unpackExponent b = -1#_ ∧ unpackMantissa b ≠ 0#_ := by
  simp only [unpack]
  by_cases htop : unpackExponent b = -1#_
  · by_cases hzero : unpackMantissa b = 0#_
    · simp [htop, hzero, UnpackedFloat.isNaN]
    · simp [htop, hzero, UnpackedFloat.isNaN]
  · rw [if_neg htop]
    refine iff_of_false ?_ fun h => htop h.1
    split
    · split <;> exact Bool.false_ne_true
    · exact Bool.false_ne_true

/-- Packing makes no NaN of anything else. -/
theorem isNaN_unpack_pack {u : UnpackedFloat} (h : u.isNaN = false) :
    (unpack Format.binary64 (pack Format.binary64 u)).isNaN = false := by
  rw [← Bool.not_eq_true, isNaN_unpack_iff]
  rintro ⟨hexponent, hmantissa⟩
  cases u with
  | notANumber => simp [UnpackedFloat.isNaN] at h
  | infinity s => simp [pack, packedInfinity] at hmantissa
  | zero s => simp [pack, packedZero] at hmantissa
  | finite s m e hm =>
    simp only [pack] at hexponent hmantissa
    split at hexponent
    next hover =>
      rw [if_pos hover, packedInfinity, unpackMantissa_packComponents] at hmantissa
      exact hmantissa rfl
    next hover =>
      -- an exponent below the highest is not the highest when it is cut to its bits
      split at hexponent
      · rw [unpackExponent_packComponents] at hexponent
        have hbits := congrArg BitVec.toNat hexponent
        have htop : (-1#11).toNat = 2047 := rfl
        rw [BitVec.toNat_ofNat, htop] at hbits
        have hlt : (e + Format.binary64.exponentBias
            + Format.binary64.mantissaBitsWithoutImplicit).toNat + 1 < 2048 :=
          Nat.lt_of_not_le hover
        rw [Nat.mod_eq_of_lt (show _ < 2 ^ 11 by omega)] at hbits
        omega
      · rw [unpackExponent_packComponents] at hexponent
        exact absurd hexponent (by decide)

theorem isNaN_neg {x : Float} (h : x.isNaN = false) : (-x).isNaN = false := by
  have hunpacked : x.toModel.unpack.neg.isNaN = false := by
    have hx : x.toModel.unpack.isNaN = false := h
    cases hu : x.toModel.unpack with
    | notANumber => simp [hu, UnpackedFloat.isNaN] at hx
    | infinity s => rfl
    | zero s => rfl
    | finite s m e hm => rfl
  exact isNaN_unpack_pack hunpacked

/-- Rounding a number gives a number. -/
theorem isNaN_round (sign : Sign) (mantissa : Nat) (exponent : Int) :
    (UnpackedFloat.round Format.binary64 sign mantissa exponent).isNaN = false := by
  simp only [UnpackedFloat.round, UnpackedFloat.roundWithAccuracy]
  split <;> rfl

theorem isNaN_toFloat (n : UInt64) : n.toFloat.isNaN = false := by
  refine isNaN_unpack_pack (u := UnpackedFloat.ofNat Format.binary64 n.toNat) ?_
  simp only [UnpackedFloat.ofNat, UnpackedFloat.ofInt, UnpackedFloat.normalize]
  split
  · exact isNaN_round ..
  · rfl
  · exact isNaN_round ..

end Numeric

/-- No number of JSON is NaN. -/
theorem Json.Number.isNaN_toFloat (n : Json.Number) : n.toFloat.isNaN = false := by
  cases n with
  | whole w =>
    show w.toFloat.isNaN = false
    unfold Json.Whole.toFloat
    split
    · exact Numeric.isNaN_toFloat _
    · exact Numeric.isNaN_neg (Numeric.isNaN_toFloat _)
  | real x hfinite =>
    have hx : x.toModel.unpack.isFinite = true := hfinite
    show x.toModel.unpack.isNaN = false
    cases hu : x.toModel.unpack with
    | notANumber => simp [hu, UnpackedFloat.isFinite] at hx
    | infinity s => rfl
    | zero s => rfl
    | finite s m e hm => rfl

end SmartPlaylist

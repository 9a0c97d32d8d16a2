import SmartPlaylist.Decimal.Shortest

/-!
# Exact comparison of numbers

A stored feature may be a whole number or a double, and a bound is a double.
They are compared as the exact numbers they stand for, without converting one
into the type of the other.  Every finite double is a whole number of units of
`2 ^ -1074`, the least positive double, so the exact order of all of them is the
order of whole numbers.

## Main definitions

* `Place` — a point of the real line in those units, or one of its two ends.
* `Place.ofFloat?`, `Place.ofInt` — where a double and a whole number lie.
* `Place.le` — the order.
-/

namespace SmartPlaylist

/-- A point of the extended real line. -/
inductive Place where
  /-- Before every number. -/
  | bottom
  /-- At `units * 2 ^ -1074`. -/
  | at (units : Int)
  /-- After every number. -/
  | top
  deriving DecidableEq, Repr

namespace Place

/-- The place of a whole number. -/
def ofInt (n : Int) : Place := .at (n * (Nat.pow 2 1074 : Nat))

/-- The place of a double; NaN has none. -/
def ofFloat? (x : Float) : Option Place :=
  match Decimal.Binary.ofFloat x with
  | some b =>
    let units : Int := (b.significand * Nat.pow 2 (b.exponent + 1074).toNat : Nat)
    some (.at (if b.negative then -units else units))
  | none =>
    if x.isNaN then none
    else if x.toBits.toNat / 0x8000_0000_0000_0000 == 1 then some .bottom
    else some .top

/-- Whether the first place is not after the second. -/
def le : Place → Place → Bool
  | .bottom, _ => true
  | .at _, .bottom => false
  | .at a, .at b => a ≤ b
  | .at _, .top => true
  | .top, .top => true
  | .top, _ => false

instance : LE Place := ⟨fun p q => p.le q = true⟩

instance (p q : Place) : Decidable (p ≤ q) := inferInstanceAs (Decidable (p.le q = true))

theorem at_le_at {a b : Int} : Place.at a ≤ Place.at b ↔ a ≤ b := decide_eq_true_iff

theorem le_total (p q : Place) : p ≤ q ∨ q ≤ p := by
  cases p <;> cases q <;> first
    | exact Or.inl rfl
    | exact Or.inr rfl
    | simpa only [at_le_at] using Int.le_total _ _

end Place

end SmartPlaylist

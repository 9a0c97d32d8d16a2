/-!
# The shortest decimal that reads back as a given double

A finite double stands for the reals that round to it: an interval around its
value that reaches half way to its neighbours, with the ends included when its
significand is even.  The shortest decimal is the one with the fewest digits in
that interval, and among those the nearest to the value.

For each digit count the decimals with that many digits form a grid around the
value, and if any point of the grid lies in the interval then so does one of the
two points next to the value, so two candidates per digit count are enough.

## Main definitions

* `Binary.ofFloat` — sign, significand and exponent of a double.
* `Shortest.digits` — the digits and the decimal exponent.
* `positional` — the text without an exponent and without a needless point.
-/

namespace SmartPlaylist.Decimal

/-- The magnitude `significand * 2 ^ exponent` and sign of a finite double, with its lower
neighbour at half the usual distance when `closeBelow` (at a power of two). -/
structure Binary where
  negative : Bool
  significand : Nat
  exponent : Int
  closeBelow : Bool
  deriving DecidableEq, Repr

/-- Takes the bit fields of a double apart; `none` for the infinities and NaN. -/
def Binary.ofFloat (x : Float) : Option Binary :=
  let bits := x.toBits.toNat
  let negative := bits / 0x8000_0000_0000_0000 == 1
  let field : Nat := bits / 0x10_0000_0000_0000 % 0x800
  let fraction : Nat := bits % 0x10_0000_0000_0000
  if field == 2047 then none
  else if field == 0 then some ⟨negative, fraction, -1074, false⟩
  else
    some ⟨negative, 0x10_0000_0000_0000 + fraction, (field : Int) - 1075,
      fraction == 0 && field != 1⟩

/-- A decimal `digits * 10 ^ exponent`. -/
structure Scientific where
  digits : Nat
  exponent : Int
  deriving DecidableEq, Repr

namespace Shortest

/-- The numerator and denominator of `n * 2 ^ e * 10 ^ d`. -/
def ratio (n : Nat) (e d : Int) : Nat × Nat :=
  (n * Nat.pow 2 e.toNat * Nat.pow 10 d.toNat, Nat.pow 2 (-e).toNat * Nat.pow 10 (-d).toNat)

/-- How many digits stand before the decimal point of `num / den`, counting zeros that follow
the point as negative: the `p` with `10 ^ (p - 1) ≤ num / den < 10 ^ p`. -/
def magnitude (num den : Nat) : Int :=
  if den ≤ num then ((Nat.toDigits 10 (num / den)).length : Int)
  else 1 - ((Nat.toDigits 10 ((den + num - 1) / num - 1)).length : Int)

/-- Whether the decimal reads back as the double: it lies between the two half-way points. -/
def readsBack (b : Binary) (s : Scientific) : Bool :=
  let four := ratio (4 * b.significand) (b.exponent - 2) (-s.exponent)
  let low := ratio (4 * b.significand - (if b.closeBelow then 1 else 2)) (b.exponent - 2)
    (-s.exponent)
  let high := ratio (4 * b.significand + 2) (b.exponent - 2) (-s.exponent)
  let point := s.digits * four.2
  if b.significand % 2 == 0 then low.1 ≤ point && point ≤ high.1
  else low.1 < point && point < high.1

/-- The grid point next to the value at decimal exponent `e`, if one reads back; of two the
nearer, and the lower one on a tie. -/
def onGrid (b : Binary) (e : Int) : Option Scientific :=
  let value := ratio b.significand b.exponent (-e)
  let below : Scientific := ⟨value.1 / value.2, e⟩
  let above : Scientific := ⟨value.1 / value.2 + 1, e⟩
  let distance := value.1 % value.2
  match readsBack b below, readsBack b above with
  | true, true => some (if 2 * distance ≤ value.2 then below else above)
  | true, false => some below
  | false, true => some above
  | false, false => none

/-- The first grid with a hit, for digit counts from `17 - fuel + 1` up to 17. -/
def search (b : Binary) (p : Int) : Nat → Scientific
  | 0 => (onGrid b (p - 17)).getD ⟨0, 0⟩
  | fuel + 1 =>
    match onGrid b (p - (17 - fuel : Nat)) with
    | some s => s
    | none => search b p fuel

/-- Moves trailing zeros of the digits into the exponent. -/
def trimZeros : Nat → Scientific → Scientific
  | 0, s => s
  | fuel + 1, s =>
    if s.digits % 10 == 0 && s.digits != 0 then trimZeros fuel ⟨s.digits / 10, s.exponent + 1⟩
    else s

/-- The fewest digits that read back as the magnitude of the double. -/
def digits (b : Binary) : Scientific :=
  if b.significand == 0 then ⟨0, 0⟩
  else
    let value := ratio b.significand b.exponent 0
    trimZeros 17 (search b (magnitude value.1 value.2) 17)

end Shortest

/-- Decimal digits of a natural number. -/
def digitText (n : Nat) : String := String.ofList (Nat.toDigits 10 n)

/-- `n` zeros. -/
def zeros (n : Nat) : String := String.ofList (List.replicate n '0')

/-- The decimal written out in full: no exponent, no point after a whole number. -/
def Scientific.positional (s : Scientific) : String :=
  let text := digitText s.digits
  if 0 ≤ s.exponent then text ++ zeros s.exponent.toNat
  else
    let places := (-s.exponent).toNat
    let padded := (zeros (places + 1 - text.length) ++ text).toList
    let whole := padded.length - places
    String.ofList (padded.take whole) ++ "." ++ String.ofList (padded.drop whole)

/-- The shortest text of a double: positional, with a sign also on negative zero. -/
def positional (x : Float) : String :=
  match Binary.ofFloat x with
  | some b => (if b.negative then "-" else "") ++ (Shortest.digits b).positional
  | none =>
    if x.isNaN then "NaN"
    else if x.toBits.toNat / 0x8000_0000_0000_0000 == 1 then "-inf"
    else "inf"

end SmartPlaylist.Decimal

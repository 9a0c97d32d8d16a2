import SmartPlaylist.Decimal.Natural
import SmartPlaylist.Decimal.Shortest

/-!
# The double nearest to a decimal

A decimal is rounded once, in whole numbers: it is scaled by the power of two
that gives its whole part 53 bits, or by the least one a double has, and that
quotient is rounded to the nearest whole number.

## Main definitions

* `divideToEven` — a rounded quotient.
* `nearest` — the double of a decimal.
* `real?` — the double that a text denotes.
-/

namespace SmartPlaylist.Decimal

/-- The whole number nearest to `num / den`; a tie goes to the even one. -/
def divideToEven (num den : Nat) : Nat :=
  let q := num / den
  let r := num % den
  if 2 * r < den then q
  else if den < 2 * r then q + 1
  else if q % 2 = 0 then q else q + 1

/-- The exponent of two that stands at the first bit of `num / den`. -/
def firstBit (num den : Nat) : Int :=
  let guess : Int := (num.log2 : Int) - den.log2
  if den * Nat.pow 2 guess.toNat ≤ num * Nat.pow 2 (-guess).toNat then guess else guess - 1

/-- How many bits a double's significand has, besides the first. -/
def significandBits : Int := 52

/-- Doubles are whole multiples of two to the minus this. -/
def leastPlace : Int := 1074

/-- The double nearest to `digits * 10 ^ exponent`, an infinity when that is too large; a tie goes
to the even significand. -/
def nearest (digits : Nat) (exponent : Int) : Float :=
  if digits = 0 then 0
  else
    let point : Int := (Nat.toDigits 10 digits).length + exponent
    if 310 < point then 1.0 / 0.0
    else if point < -330 then 0
    else
      let (num, den) := Shortest.ratio digits 0 exponent
      let places := min (significandBits - firstBit num den) leastPlace
      let scaled := divideToEven (num * Nat.pow 2 places.toNat) (den * Nat.pow 2 (-places).toNat)
      scaled.toUInt64.toFloat.scaleB (-places)

/-- The exponent that follows an `e`: digits with at most one sign before them. -/
def exponent? : List Char → Option Int
  | '-' :: digits => if digits.isEmpty || !digits.all Char.isDigit then none
      else some (-(ofDigits digits : Int))
  | '+' :: digits => if digits.isEmpty || !digits.all Char.isDigit then none
      else some (ofDigits digits)
  | digits => if digits.isEmpty || !digits.all Char.isDigit then none
      else some (ofDigits digits)

/-- The double that an unsigned text denotes: digits with at most one point among them, at least
one digit, and perhaps an exponent. -/
def real? (text : List Char) : Option Float :=
  let (whole, rest) := text.span Char.isDigit
  let (places, rest) := match rest with
    | '.' :: rest => rest.span Char.isDigit
    | rest => ([], rest)
  if whole.isEmpty && places.isEmpty then none
  else
    let digits := ofDigits (whole ++ places)
    match rest with
    | [] => some (nearest digits (-(places.length : Int)))
    | c :: rest =>
      if c = 'e' || c = 'E' then
        (exponent? rest).map fun e => nearest digits (e - places.length)
      else none

end SmartPlaylist.Decimal

/-!
# Natural numbers from decimal text

## Main definitions

* `ofDigits`, `billionths` — the numbers that digits denote before and after a point.
* `natural?` — the 64-bit number that a text denotes.
-/

namespace SmartPlaylist.Decimal

/-- The number that decimal digits denote. -/
def ofDigits (digits : List Char) : Nat :=
  digits.foldl (fun n c => n * 10 + (c.toNat - '0'.toNat)) 0

/-- The billionths that the digits after a point denote; digits past the ninth are cut off. -/
def billionths (places : List Char) : Nat :=
  let kept := places.take 9
  ofDigits kept * Nat.pow 10 (9 - kept.length)

/-- The 64-bit number that a text denotes: decimal digits, with at most one plus sign before
them. -/
def natural? (s : String) : Option Nat :=
  let digits := match s.toList with
    | '+' :: rest => rest
    | cs => cs
  if digits.isEmpty || !digits.all Char.isDigit then none
  else if ofDigits digits < 0x1_0000_0000_0000_0000 then some (ofDigits digits)
  else none

end SmartPlaylist.Decimal

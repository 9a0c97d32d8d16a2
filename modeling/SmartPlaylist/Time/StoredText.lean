import SmartPlaylist.Decimal.Natural
import SmartPlaylist.Decimal.Shortest
import SmartPlaylist.Text.Blank
import SmartPlaylist.Text.Utf8
import SmartPlaylist.Time.Moment

/-!
# The text of a stored moment

Moments are stored as text: `YYYY-MM-DD HH:MM:SS`, followed by a point and 3, 6 or
9 digits when the moment does not fall on a whole second.  A leap second is
written as second 60.  A year outside 0 to 9999 gets a sign.

Reading is more lenient than writing: fields may lack their leading zeros, blanks
may stand before them, and between date and time there may be any blanks, none, or
a `T` where a date of four, two and two digits ends.

## Main definitions

* `Moment.storedText` — the text of a moment.
* `Moment.ofStoredText?` — the moment of a text.
-/

namespace SmartPlaylist.Moment

namespace StoredText

/-! ### Writing -/

/-- Decimal digits, padded with zeros to a width. -/
def padded (width n : Nat) : String :=
  let digits := Decimal.digitText n
  Decimal.zeros (width - digits.length) ++ digits

/-- The year: four digits, with a sign outside 0 to 9999. -/
def yearText (year : Int) : String :=
  if 0 ≤ year ∧ year ≤ 9999 then padded 4 year.toNat
  else (if year < 0 then "-" else "+") ++ padded 4 year.natAbs

/-- The part of a second in as many groups of three digits as it needs. -/
def fractionText (nano : Nat) : String :=
  if nano = 0 then ""
  else if nano % 1_000_000 = 0 then "." ++ padded 3 (nano / 1_000_000)
  else if nano % 1000 = 0 then "." ++ padded 6 (nano / 1000)
  else "." ++ padded 9 nano

/-- The date as text. -/
def dateText (d : Date) : String :=
  yearText d.year ++ "-" ++ padded 2 d.month ++ "-" ++ padded 2 d.day

/-- The time of day as text, without the part of the second. -/
def clockText (m : Moment) : String :=
  padded 2 (m.second / 3600) ++ ":" ++ padded 2 (m.second / 60 % 60) ++ ":" ++
    padded 2 (m.second % 60 + m.nano / 1_000_000_000)

/-! ### Reading -/

/-- A reader takes a value off the front of the characters. -/
abbrev Reader (α : Type) := List Char → Option (α × List Char)

/-- Reads from one up to `width` digits. -/
def number (width : Nat) : Reader Nat := fun cs =>
  let digits := (cs.take width).takeWhile Char.isDigit
  if digits.isEmpty then none
  else some (Decimal.ofDigits digits, cs.drop digits.length)

/-- Reads one or two digits, after any blanks. -/
def pair : Reader Nat := fun cs => number 2 (cs.dropWhile Text.isBlank)

/-- Reads a year after any blanks: up to four digits, or a sign and any number of digits. -/
def year : Reader Int := fun cs =>
  match cs.dropWhile Text.isBlank with
  | '-' :: rest => (number rest.length rest).map fun (n, rest) => (-(n : Int), rest)
  | '+' :: rest => (number rest.length rest).map fun (n, rest) => (n, rest)
  | rest => (number 4 rest).map fun (n, rest) => (n, rest)

/-- Reads one character. -/
def exactly (c : Char) : Reader Unit
  | [] => none
  | d :: cs => if d = c then some ((), cs) else none

/-- Reads the part of a second, if a point stands there. -/
def fraction : Reader Nat
  | '.' :: cs =>
    let digits := cs.takeWhile Char.isDigit
    if digits.isEmpty then none
    else some (Decimal.billionths digits, cs.dropWhile Char.isDigit)
  | cs => some (0, cs)

/-- What stands between a date and a time. -/
inductive Separator where
  | letter
  | blanks
  deriving DecidableEq, Repr

/-- Reads what stands between a date and a time; blanks may be missing. -/
def Separator.read : Separator → Reader Unit
  | .letter, cs => exactly 'T' cs
  | .blanks, cs => some ((), cs.dropWhile Text.isBlank)

/-- Reads a date and a time with that between them. -/
def moment (separator : Separator) : Reader Moment := fun cs => do
  let (year, cs) ← year cs
  let (_, cs) ← exactly '-' cs
  let (month, cs) ← pair cs
  let (_, cs) ← exactly '-' cs
  let (day, cs) ← pair cs
  let (_, cs) ← separator.read cs
  let (hour, cs) ← pair cs
  let (_, cs) ← exactly ':' cs
  let (minute, cs) ← pair cs
  let (_, cs) ← exactly ':' cs
  let (second, cs) ← pair cs
  let (nano, cs) ← fraction cs
  let date ← Date.ofNumbers? year month day
  let moment ← Moment.ofNumbers? date hour minute second nano
  some (moment, cs)

/-- The moment of a text with that between date and time. -/
def parse (separator : Separator) (cs : List Char) : Option Moment :=
  match moment separator cs with
  | some (m, []) => some m
  | _ => none

end StoredText

open StoredText

/-- The text under which a moment is stored. -/
def storedText (m : Moment) : String :=
  dateText m.date ++ " " ++ clockText m ++ fractionText (m.nano % 1_000_000_000)

/-- The moment of a stored text.  Its eleventh byte says what stands between date and time. -/
def ofStoredText? (s : String) : Option Moment :=
  parse (if (Text.utf8 s)[10]? = some 0x54 then .letter else .blanks) s.toList

/-- The moment of a text with a `T` between date and time. -/
def ofIsoText? (s : String) : Option Moment := parse .letter s.toList

/-- The text of a moment to the nanosecond, with a `T` between date and time. -/
def isoText (m : Moment) : String :=
  dateText m.date ++ "T" ++ clockText m ++ "." ++ padded 9 (m.nano % 1_000_000_000)

end SmartPlaylist.Moment

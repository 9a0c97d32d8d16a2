import SmartPlaylist.Decimal.Nearest
import SmartPlaylist.Json.Basic
import SmartPlaylist.Toml.Text

/-!
# TOML: numbers and times

A number is whole unless it has a point or an exponent.  Whole numbers are
signed and have 64 bits; they may be written in base 16, 8 or 2.  An underscore
may stand between two digits.  A number that JSON does not have reads as `null`,
and a time reads as an object that holds its text under one reserved key.

## Main definitions

* `number` — whole and real numbers.
* `time` — dates, times of day and both.
* `scalar` — any value that is no array and no table.
-/

namespace SmartPlaylist.Toml

/-! ### Digits -/

/-- Reads what follows the first digit: digits, and underscores between two of them. -/
def moreDigits (isDigit : Char → Bool) : Reader (List Char)
  | [] => some ([], [])
  | '_' :: c :: rest =>
    if isDigit c then (moreDigits isDigit rest).map fun (cs, rest) => (c :: cs, rest) else none
  | ['_'] => none
  | c :: rest =>
    if isDigit c then (moreDigits isDigit rest).map fun (cs, rest) => (c :: cs, rest)
    else some ([], c :: rest)

/-- Reads at least one digit and gives the digits without underscores. -/
def digits (isDigit : Char → Bool) : Reader (List Char)
  | [] => none
  | c :: rest =>
    if isDigit c then (moreDigits isDigit rest).map fun (cs, rest) => (c :: cs, rest) else none

/-- Reads exactly `count` decimal digits as a number. -/
def fixedDigits (count : Nat) (cs : List Char) : Option (Nat × List Char) :=
  let run := cs.take count
  if run.length = count && run.all Char.isDigit then
    some (Decimal.ofDigits run, cs.drop count)
  else none

/-! ### Numbers -/

/-- A signed whole number of 64 bits. -/
def whole? (n : Int) : Option Json :=
  if -0x8000_0000_0000_0000 ≤ n ∧ n < 0x8000_0000_0000_0000 then
    (Json.Whole.ofInt? n).map fun w => .number (.whole w)
  else none

/-- A real number; JSON has neither infinities nor NaN. -/
def realOrNull (x : Float) : Json :=
  ((Json.Number.ofFloat? x).map Json.number).getD .null

/-- The number that digits of a base denote. -/
def ofBase (base : Nat) (cs : List Char) : Nat :=
  cs.foldl (fun n c => n * base + (Text.hexValue? c).getD 0) 0

/-- Reads a whole number in another base, after its two first characters. -/
def inBase (base : Nat) (cs : List Char) : Option (Json × List Char) := do
  let isDigit := fun c => match Text.hexValue? c with
    | some d => decide (d < base)
    | none => false
  let (ds, rest) ← digits isDigit cs
  let value ← whole? (ofBase base ds)
  some (value, rest)

/-- Reads an exponent, after its `e`: the digits with their sign. -/
def exponentPart : Reader Int
  | '-' :: rest => (digits Char.isDigit rest).map fun (ds, rest) =>
      (-(Decimal.ofDigits ds : Int), rest)
  | '+' :: rest =>
    (digits Char.isDigit rest).map fun (ds, rest) => ((Decimal.ofDigits ds : Int), rest)
  | rest => (digits Char.isDigit rest).map fun (ds, rest) => ((Decimal.ofDigits ds : Int), rest)

/-- A real number of that sign and magnitude; a positive one must be finite. -/
def real? (negative : Bool) (magnitude : Float) : Option Json :=
  if negative then some (realOrNull (-magnitude))
  else if magnitude.isInf then none
  else some (realOrNull magnitude)

/-- Reads the exponent, if there is one, of a real number with these digits and places. -/
def realTail (negative : Bool) (whole places : List Char) (cs : List Char) :
    Option (Json × List Char) :=
  let significand := Decimal.ofDigits (whole ++ places)
  match cs with
  | c :: rest =>
    if c = 'e' || c = 'E' then do
      let (e, rest) ← exponentPart rest
      (real? negative (Decimal.nearest significand (e - places.length))).map (·, rest)
    else (real? negative (Decimal.nearest significand (-(places.length : Int)))).map (·, cs)
  | [] => (real? negative (Decimal.nearest significand (-(places.length : Int)))).map (·, cs)

/-- Reads a number in base ten whose sign has been read.  A zero in front stands alone. -/
def decimal (negative : Bool) (cs : List Char) : Option (Json × List Char) := do
  let (whole, rest) ← match cs with
    | '0' :: rest => some (['0'], rest)
    | cs => digits Char.isDigit cs
  match rest with
  | '.' :: rest =>
    let (places, rest) ← digits Char.isDigit rest
    realTail negative whole places rest
  | 'e' :: _ => realTail negative whole [] rest
  | 'E' :: _ => realTail negative whole [] rest
  | _ =>
    let n : Int := Decimal.ofDigits whole
    (whole? (if negative then -n else n)).map (·, rest)

/-- Reads a number whose sign has been read. -/
def signed (negative : Bool) : Reader Json
  | 'i' :: 'n' :: 'f' :: rest => some (.null, rest)
  | 'n' :: 'a' :: 'n' :: rest => some (.null, rest)
  | cs => decimal negative cs

/-- Reads a number. -/
def number : Reader Json
  | '0' :: 'x' :: rest => inBase 16 rest
  | '0' :: 'o' :: rest => inBase 8 rest
  | '0' :: 'b' :: rest => inBase 2 rest
  | '+' :: rest => signed false rest
  | '-' :: rest => signed true rest
  | cs => signed false cs

/-! ### Times -/

/-- Two decimal digits. -/
def twoDigits (n : Nat) : String := String.ofList [Nat.digitChar (n / 10), Nat.digitChar (n % 10)]

/-- Reads a two-digit number between bounds. -/
def twoDigitField (low high : Nat) (cs : List Char) : Option (Nat × List Char) := do
  let (n, rest) ← fixedDigits 2 cs
  if low ≤ n ∧ n ≤ high then some (n, rest) else none

/-- Reads the hour and the colon after it. -/
def hourField (cs : List Char) : Option (Nat × List Char) :=
  match twoDigitField 0 23 cs with
  | some (hour, ':' :: rest) => some (hour, rest)
  | _ => none

/-- Reads the fraction of a second, if there is one, and gives its text: at most nine digits, the
last not zero. -/
def fraction : List Char → String × List Char
  | '.' :: rest =>
    let (ds, after) := rest.span Char.isDigit
    if ds.isEmpty then ("", '.' :: rest)
    else
      let kept := ((ds.take 9).reverse.dropWhile (· = '0')).reverse
      (if kept.isEmpty then "" else "." ++ String.ofList kept, after)
  | rest => ("", rest)

/-- Reads the minute, second and fraction after the hour; a second may be 60. -/
def clock (hour : Nat) (cs : List Char) : Option (String × List Char) := do
  let (minute, rest) ← twoDigitField 0 59 cs
  match rest with
  | ':' :: rest =>
    let (second, rest) ← twoDigitField 0 60 rest
    let (places, rest) := fraction rest
    some (twoDigits hour ++ ":" ++ twoDigits minute ++ ":" ++ twoDigits second ++ places, rest)
  | _ => none

/-- Reads the hours and minutes of an offset after its sign. -/
def offsetAmount (sign : String) (cs : List Char) : Option (String × List Char) := do
  let (hour, rest) ← hourField cs
  let (minute, rest) ← twoDigitField 0 59 rest
  some (sign ++ twoDigits hour ++ ":" ++ twoDigits minute, rest)

/-- Reads the offset from UTC, if there is one. -/
def offset : Reader String
  | 'Z' :: rest => some ("Z", rest)
  | 'z' :: rest => some ("Z", rest)
  | '+' :: rest => offsetAmount "+" rest
  | '-' :: rest => offsetAmount "-" rest
  | rest => some ("", rest)

/-- The number of days in a month. -/
def monthDays (year month : Nat) : Nat :=
  if month = 2 then if year % 4 = 0 ∧ (year % 100 ≠ 0 ∨ year % 400 = 0) then 29 else 28
  else if month = 4 ∨ month = 6 ∨ month = 9 ∨ month = 11 then 30
  else 31

/-- Reads the time of day and offset after a date, if both a separator and an hour are there. -/
def timeAfterDate (date : String) (cs : List Char) : Option (String × List Char) :=
  match cs with
  | c :: rest =>
    if c = 'T' || c = 't' || c = ' ' then
      match hourField rest with
      | some (hour, rest) => do
        let (timeOfDay, rest) ← clock hour rest
        let (zone, rest) ← offset rest
        some (date ++ "T" ++ timeOfDay ++ zone, rest)
      | none => some (date, cs)
    else some (date, cs)
  | [] => some (date, [])

/-- Reads what follows the year and its hyphen. -/
def dateAfterYear (year : Nat) (yearText : List Char) (cs : List Char) :
    Option (String × List Char) := do
  let (month, rest) ← twoDigitField 1 12 cs
  match rest with
  | '-' :: rest =>
    let (day, rest) ← twoDigitField 1 (monthDays year month) rest
    timeAfterDate
      (String.ofList yearText ++ "-" ++ twoDigits month ++ "-" ++ twoDigits day) rest
  | _ => none

/-- The key under which a time's text stands. -/
def timeKey : String := "$__toml_private_datetime"

/-- A time as a JSON value. -/
def ofTime (text : String) : Json := .object [(timeKey, .string text)]

/-- Reads a date or time if the characters begin as one; otherwise a number. -/
def timeOrNumber (cs : List Char) : Option (Json × List Char) :=
  match fixedDigits 4 cs with
  | some (year, '-' :: rest) => (dateAfterYear year (cs.take 4) rest).map fun (s, rest) =>
      (ofTime s, rest)
  | _ =>
    match hourField cs with
    | some (hour, rest) => (clock hour rest).map fun (s, rest) => (ofTime s, rest)
    | none => number cs

/-- Reads a value that is neither an array nor a table. -/
def scalar : Reader Json
  | [] => none
  | 't' :: 'r' :: 'u' :: 'e' :: rest => some (.bool true, rest)
  | 'f' :: 'a' :: 'l' :: 's' :: 'e' :: rest => some (.bool false, rest)
  | c :: rest =>
    if c = '"' || c = '\'' then (text (c :: rest)).map fun (s, rest) => (.string s, rest)
    else if c.isDigit then timeOrNumber (c :: rest)
    else number (c :: rest)

end SmartPlaylist.Toml

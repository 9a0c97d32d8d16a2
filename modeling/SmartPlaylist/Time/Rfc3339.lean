import SmartPlaylist.Decimal.Natural
import SmartPlaylist.Time.Moment

/-!
# Timestamps of the remote service

The service writes times as RFC 3339 does: `2024-03-01T18:20:00.123Z`, or with an
offset from UTC in place of the `Z`.  Letters may be of either case, and a space
may stand for the `T`.  Fractions finer than a nanosecond are cut off.

## Main definitions

* `Rfc3339.parse` — the moment of a timestamp.
-/

namespace SmartPlaylist.Rfc3339

/-- A reader takes a value off the front of the characters. -/
abbrev Reader (α : Type) := List Char → Option (α × List Char)

/-- Reads exactly `n` decimal digits as a number, after the number read so far. -/
def digits : Nat → Nat → Reader Nat
  | 0, value, cs => some (value, cs)
  | _ + 1, _, [] => none
  | n + 1, value, c :: cs =>
    if c.isDigit then digits n (value * 10 + (c.toNat - '0'.toNat)) cs else none

/-- Reads one of the given characters. -/
def oneOf (allowed : List Char) : Reader Unit
  | [] => none
  | c :: cs => if c ∈ allowed then some ((), cs) else none

/-- Reads a fraction, if a point stands there; then at least one digit must follow. -/
def fraction : Reader Nat
  | '.' :: cs =>
    let places := cs.takeWhile Char.isDigit
    if places.isEmpty then none else some (Decimal.billionths places, cs.dropWhile Char.isDigit)
  | cs => some (0, cs)

/-- Reads a year, a month and a day with hyphens between them. -/
def date : Reader Date := fun cs => do
  let (year, cs) ← digits 4 0 cs
  let (_, cs) ← oneOf ['-'] cs
  let (month, cs) ← digits 2 0 cs
  let (_, cs) ← oneOf ['-'] cs
  let (day, cs) ← digits 2 0 cs
  let date ← Date.ofNumbers? year month day
  some (date, cs)

/-- Reads an offset from UTC in minutes: `Z`, or a sign with hours and minutes.  The sign may be
the mathematical minus. -/
def offset : Reader Int
  | [] => none
  | sign :: cs =>
    if sign = 'Z' ∨ sign = 'z' then some (0, cs)
    else if sign = '+' ∨ sign = '-' ∨ sign = '−' then do
      let (hours, cs) ← digits 2 0 cs
      let (_, cs) ← oneOf [':'] cs
      let (minutes, cs) ← digits 2 0 cs
      if hours < 24 ∧ minutes < 60 then
        let east : Int := hours * 60 + minutes
        some (if sign = '+' then east else -east, cs)
      else none
    else none

/-- Reads a timestamp: the local date and time, and the offset to take off. -/
def timestamp : Reader Moment := fun cs => do
  let (date, cs) ← date cs
  let (_, cs) ← oneOf ['T', 't', ' '] cs
  let (hour, cs) ← digits 2 0 cs
  let (_, cs) ← oneOf [':'] cs
  let (minute, cs) ← digits 2 0 cs
  let (_, cs) ← oneOf [':'] cs
  let (second, cs) ← digits 2 0 cs
  let (nano, cs) ← fraction cs
  let (minutes, cs) ← offset cs
  let civil ← Moment.ofNumbers? date hour minute second nano
  some (civil.minusMinutes minutes, cs)

/-- The moment that a timestamp denotes; `none` for a text that is not exactly a timestamp. -/
def parse (s : String) : Option Moment :=
  match timestamp s.toList with
  | some (m, []) => some m
  | _ => none

end SmartPlaylist.Rfc3339

import SmartPlaylist.Numeric.Place

/-!
# Stored values

A stored value is a text, a real number or a whole number.  Numbers of both kinds
lie on one line, and every text comes after every number.

## Main definitions

* `Cell` — a stored value.
* `Cell.atLeast`, `Cell.atMost` — its order relative to a bound.
-/

namespace SmartPlaylist

/-- A stored value; a column without one has no cell. -/
inductive Cell where
  | text (s : String)
  | real (x : Float)
  | whole (n : Int64)
  deriving DecidableEq

namespace Cell

/-- Where a number lies; a text is no number. -/
def place? : Cell → Option Place
  | text _ => none
  | real x => Place.ofFloat? x
  | whole n => some (Place.ofInt n.toInt)

/-- Whether the value lies at or above a bound.  Every text comes after every number. -/
def atLeast (c : Cell) (min : Float) : Bool :=
  match Place.ofFloat? min, c.place? with
  | some low, some p => low ≤ p
  | some _, none => match c with
    | text _ => true
    | _ => false
  | none, _ => false

/-- Whether the value lies at or below a bound. -/
def atMost (c : Cell) (max : Float) : Bool :=
  match Place.ofFloat? max, c.place? with
  | some high, some p => p ≤ high
  | _, _ => false

end Cell

end SmartPlaylist

import SmartPlaylist.Text.Hexadecimal

/-!
# Tables of character codes

A property of characters is a list of ranges of codes.  A table that gives every
code an answer of its own is one text instead: rows of hexadecimal numbers, with
blanks between the numbers and a semicolon after each row.

## Main definitions

* `CodeRanges`, `CodeRanges.contains` — a set of characters as ranges.
* `CodeTable.rows` — the rows of a table.
-/

namespace SmartPlaylist.Text

/-- The first and last code of each run of characters in a set. -/
abbrev CodeRanges := List (Nat × Nat)

/-- Whether the character lies in one of the ranges. -/
def CodeRanges.contains (ranges : CodeRanges) (c : Char) : Bool :=
  ranges.any fun r => r.1 ≤ c.toNat && c.toNat ≤ r.2

namespace CodeTable

/-- What has been read of a table: the number and the row that are not yet ended, and the rows
before them; rows and numbers in reverse. -/
structure State where
  number : Option Nat
  row : List Nat
  rows : List (List Nat)

/-- Ends the number. -/
def State.endNumber (s : State) : State :=
  match s.number with
  | some n => { s with number := none, row := n :: s.row }
  | none => s

/-- Ends the row. -/
def State.endRow (s : State) : State :=
  let s := s.endNumber
  ⟨none, [], s.row.reverse :: s.rows⟩

/-- Reads one character. -/
def State.read (s : State) (c : Char) : State :=
  match hexValue? c with
  | some d => { s with number := some (s.number.getD 0 * 16 + d) }
  | none => if c = ';' then s.endRow else s.endNumber

/-- The rows of a table. -/
def rows (table : String) : List (List Nat) :=
  (table.toList.foldl State.read ⟨none, [], []⟩).rows.reverse

end CodeTable

end SmartPlaylist.Text

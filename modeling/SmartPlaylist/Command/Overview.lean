import SmartPlaylist.Selection.Eligibility
import SmartPlaylist.Session.Job
import SmartPlaylist.Text.Width

/-!
# The overview of stored root playlists

A table with a row for each stored root playlist: how many candidates it has, how
many of them are pinned, and how many may be picked now.

## Main definitions

* `OverviewRow`, `overview` — the rows.
* `Overview.table` — the table as text.
-/

namespace SmartPlaylist

variable {σ ε : Type}

/-- A row of the overview. -/
structure OverviewRow where
  name : String
  candidates : Nat
  pinned : Nat
  eligible : Nat
  deriving DecidableEq, Repr, Inhabited

/-- The row of one playlist.  Where the plays cannot be read, no track counts as eligible. -/
def overviewRow (name : String) (now : Moment) : Job σ StoreError OverviewRow := do
  let root ← Job.store (Store.loadRoot name)
  let eligible ← (Job.store (Store.eligibleTracks name now)).attempt
  let count := match eligible with
    | .ok tracks => tracks.length
    | .error _ => 0
  return ⟨name, root.tracks.length, root.pinned, count⟩

/-- The rows of the playlists of these names; one that cannot be read is reported and left out. -/
def overview (now : Moment) : List String → Job σ ε (List OverviewRow)
  | [] => return []
  | name :: rest => do
    match ← (overviewRow name now).attempt with
    | .ok row => return row :: (← overview now rest)
    | .error e =>
      Job.tell (.rootNotReadable name e.message)
      overview now rest

namespace Overview

/-- The cells of the heading. -/
def heading : List String := ["name", "candidates", "pinned", "eligible"]

/-- The cells of a row. -/
def cells (r : OverviewRow) : List String :=
  [r.name, Decimal.digitText r.candidates, Decimal.digitText r.pinned,
    Decimal.digitText r.eligible]

/-- The lines of a cell. -/
def cellLines (cell : String) : List String := cell.splitOn "\n"

/-- The width of each column: that of its longest line. -/
def widths (rows : List (List String)) : List Nat :=
  (List.range heading.length).map fun column =>
    rows.foldl (fun width row =>
      (cellLines (row.getD column "")).foldl (fun width line => max width (Text.width line))
        width) 0

/-- A text filled up with blanks. -/
def padded (width : Nat) (s : String) : String :=
  s ++ String.ofList (List.replicate (width - Text.width s) ' ')

/-- The line between two rows. -/
def rule (widths : List Nat) : String :=
  "+" ++ String.join (widths.map fun w => String.ofList (List.replicate (w + 2) '-') ++ "+")

/-- The lines of a row. -/
def rowLines (widths : List Nat) (row : List String) : List String :=
  let columns := row.map cellLines
  let height := columns.foldl (fun height lines => max height lines.length) 1
  (List.range height).map fun i =>
    "|" ++ String.join ((columns.zip widths).map fun (lines, w) =>
      " " ++ padded w (lines.getD i "") ++ " |")

/-- The table: the heading and the rows, with a line between each two. -/
def table (rows : List OverviewRow) : String :=
  let all := heading :: rows.map cells
  let widths := widths all
  "\n".intercalate
    (rule widths :: all.flatMap fun row => rowLines widths row ++ [rule widths])

end Overview

end SmartPlaylist

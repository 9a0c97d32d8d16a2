import SmartPlaylist.Json.Record
import SmartPlaylist.Store.Catalog

/-!
# The database between two commands

Between commands the database is kept as one JSON object: the rows of each table
as arrays of cells, and `null` for a table that is missing.  A whole number and a
double are kept as the number that their bits denote, so that they come back
exactly; the kind of the column tells them apart.

## Main definitions

* `Database.toJson`, `Database.ofJson?` — the database as a JSON value, and back.
-/

namespace SmartPlaylist

namespace Snapshot

/-! ### Cells -/

/-- A cell as a value; an absent one as `null`. -/
def ofCell : Option Cell → Json
  | none => .null
  | some (.whole n) => .number (.whole (.ofWord n.toUInt64))
  | some (.real x) => .number (.whole (.ofWord x.toBits))
  | some (.text s) => .string s

/-- Reads a cell of a column. -/
def cell? (kind : ColumnKind) : Json → Option (Option Cell)
  | .null => some none
  | .string s => some (some (.text s))
  | v =>
    match kind with
    | .text => none
    | .whole => v.natural?.map fun n => some (.whole n.toInt64)
    | .real => v.natural?.map fun n => some (.real (.ofBits n))

/-- Reads the cells of a row. -/
def cells? : List StoredColumn → List Json → Option StoredRow
  | [], [] => some []
  | c :: cs, v :: vs => do return (← cell? c.kind v) :: (← cells? cs vs)
  | _, _ => none

/-! ### Tables -/

/-- A table as a field. -/
def ofRelation (db : Database) (r : Relation) : String × Json :=
  (r.name, match r.rows db with
    | some rows => .array (rows.map fun row => .array (row.map ofCell))
    | none => .null)

/-- Reads the rows of a table. -/
def rows? (r : Relation) : Json → Option (List StoredRow) :=
  Json.list? fun
    | .array cells => cells? r.columns cells
    | _ => none

/-- Reads a table out of fields; one that has no field, or `null` for one, is missing. -/
def table? (fields : List (String × Json)) (db : Database) (r : Relation) : Option Database :=
  match fields.lookup r.name with
  | none | some .null => some (r.dropped db)
  | some v => (rows? r v).bind fun rows => r.withRows rows db

end Snapshot

/-- The database as a JSON value. -/
def Database.toJson (db : Database) : Json :=
  .object (Catalog.relations.map (Snapshot.ofRelation db))

/-- Reads a database. -/
def Database.ofJson? : Json → Option Database
  | .object fields => Catalog.relations.foldlM (Snapshot.table? fields) {}
  | _ => none

end SmartPlaylist

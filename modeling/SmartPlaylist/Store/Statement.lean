import SmartPlaylist.Decimal.Natural
import SmartPlaylist.Decimal.Shortest
import SmartPlaylist.Store.Action
import SmartPlaylist.Store.Catalog

/-!
# Statements by name

Changes to the database that name their table and its columns, as a user makes
them by hand.  A statement takes effect as a whole or not at all.  A value goes
into a column in the form of the column's kind; it may not be absent where the
column requires one, and no two rows of a table may have one key.

## Main definitions

* `Statement` — the statements.
* `Statement.run` — what a statement does.
* `Statement.runAll` — several in order, with transactions among them.

## Main results

* `Statement.run_error` — a failing statement changes nothing.
-/

namespace SmartPlaylist

/-- What is done with a row that repeats the key of another. -/
inductive Clash where
  /-- The statement fails. -/
  | fail
  /-- The row is left out. -/
  | skip
  /-- The other row goes. -/
  | replace
  deriving DecidableEq, Repr, Inhabited

/-- A value for a column. -/
abbrev Assignment := String × Option Cell

/-- A change to the database. -/
inductive Statement where
  /-- Add rows; of the columns that are not listed the values are absent. -/
  | insert (clash : Clash) (table : String) (columns : Option (List String))
      (rows : List StoredRow)
  /-- Change the rows that have the given values. -/
  | update (table : String) (changes conditions : List Assignment)
  /-- Delete the rows that have the given values. -/
  | delete (table : String) (conditions : List Assignment)
  | drop (ifExists : Bool) (table : String)
  | begin
  | commit
  | rollback
  deriving DecidableEq

/-! ### Values -/

/-- The whole number that a text of digits denotes, with at most one sign before them. -/
def wholeText? (s : String) : Option Int64 :=
  let (negative, digits) := match s.toList with
    | '-' :: rest => (true, rest)
    | '+' :: rest => (false, rest)
    | cs => (false, cs)
  let n : Int := Decimal.ofDigits digits
  let n := if negative then -n else n
  if digits.isEmpty || !digits.all Char.isDigit then none
  else if -0x8000_0000_0000_0000 ≤ n ∧ n < 0x8000_0000_0000_0000 then some (.ofInt n)
  else none

/-- A whole number as a text of digits, with a minus sign if it is negative. -/
def wholeText (n : Int64) : String :=
  let digits := Decimal.digitText n.toInt.natAbs
  if n.toInt < 0 then "-" ++ digits else digits

/-- A value in the form of a kind of column, unless it has none there. -/
def ColumnKind.admit? : ColumnKind → Cell → Option Cell
  | .text, .whole n => some (.text (wholeText n))
  | .whole, .real x =>
    if x.toInt64.toFloat == x && x.abs < 9.2e18 then some (.whole x.toInt64) else none
  | .real, .whole n => some (.real (.ofInt n.toInt))
  | .whole, .text s => (wholeText? s).map .whole
  | .text, .text s => some (.text s)
  | .whole, .whole n => some (.whole n)
  | .real, .real x => some (.real x)
  | .text, .real _ | .real, .text _ => none

namespace Relation

/-- The place of a column; upper and lower case are one. -/
def columnIndex? (r : Relation) (name : String) : Option Nat :=
  r.columns.findIdx? fun c => c.name = name.toLower

/-- A row in the form of the table, if every value has a place and none is missing. -/
def admit? (r : Relation) (row : StoredRow) : Option StoredRow :=
  (r.columns.zip row).mapM fun (column, cell) =>
    match cell with
    | some cell => (column.kind.admit? cell).map some
    | none => if column.required then none else some none

/-- Whether two rows have one key. -/
def sameKey (r : Relation) (a b : StoredRow) : Bool :=
  0 < r.keySize && a.take r.keySize = b.take r.keySize

/-- A row with other values in the columns of these names; of two for one column the later one. -/
def place? (r : Relation) (row : StoredRow) : List Assignment → Option StoredRow
  | [] => some row
  | (name, cell) :: rest => do
    let i ← r.columnIndex? name
    r.place? (row.set i cell) rest

/-- Conditions by the places of their columns, with the values in the columns' form. -/
def conditions? (r : Relation) (conditions : List Assignment) :
    Option (List (Nat × Option Cell)) :=
  conditions.mapM fun (name, cell) => do
    let i ← r.columnIndex? name
    let column ← r.columns[i]?
    return (i, cell.bind column.kind.admit?)

/-- Whether a row has values; an absent value is not equal to anything. -/
def meets (row : StoredRow) (conditions : List (Nat × Option Cell)) : Bool :=
  conditions.all fun (i, cell) => cell.isSome && row.getD i none = cell

end Relation

namespace Statement

/-! ### Single tables -/

/-- The table of a name with its rows. -/
def table (name : String) : Store.Action (Relation × List StoredRow) :=
  ExceptT.mk fun db =>
    match Catalog.find? name with
    | none => (.error (.missingTable name), db)
    | some r =>
      match r.rows db with
      | none => (.error (.missingTable r.name), db)
      | some rows => (.ok (r, rows), db)

/-- Puts rows in place of those of a table. -/
def setRows (r : Relation) (rows : List StoredRow) : Store.Action Unit :=
  ExceptT.mk fun db =>
    match r.withRows rows db with
    | some after => (.ok (), after)
    | none => (.error (.unfitValue r.name), db)

/-- What must be there, or a failure of the table. -/
def require {α : Type} (r : Relation) (x : Option α) : Store.Action α :=
  match x with
  | some x => return x
  | none => throw (.unfitValue r.name)

/-- Adds a row to rows. -/
def addRow (r : Relation) (clash : Clash) (rows : List StoredRow) (row : StoredRow) :
    Store.Action (List StoredRow) :=
  if rows.any (r.sameKey row) then
    match clash with
    | .fail => throw (.duplicateKey r.name)
    | .skip => return rows
    | .replace => return rows.filter (fun other => !r.sameKey row other) ++ [row]
  else return rows ++ [row]

/-- The row of the values that are given for the listed columns, or for all.  A column that is
listed twice gets its first value. -/
def arrange? (r : Relation) (columns : Option (List String)) (row : StoredRow) :
    Option StoredRow :=
  match columns with
  | none => if row.length = r.columns.length then some row else none
  | some names =>
    if names.length = row.length then
      r.place? (List.replicate r.columns.length none) (names.zip row).reverse
    else none

/-- Adds the rows of an insertion one after another. -/
def addRows (r : Relation) (clash : Clash) (columns : Option (List String)) :
    List StoredRow → List StoredRow → Store.Action (List StoredRow)
  | rows, [] => return rows
  | rows, row :: rest => do
    let arranged ← require r (arrange? r columns row)
    match r.admit? arranged with
    | some row => addRows r clash columns (← addRow r clash rows row) rest
    | none =>
      if clash = .skip then addRows r clash columns rows rest
      else throw (.unfitValue r.name)

/-- What a statement other than one about transactions does, step by step. -/
def steps : Statement → Store.Action Unit
  | insert clash name columns rows => do
    let (r, old) ← table name
    setRows r (← addRows r clash columns old rows)
  | update name changes conditions => do
    let (r, old) ← table name
    let conditions ← require r (r.conditions? conditions)
    let _ ← require r (changes.mapM fun change => r.columnIndex? change.1)
    let new ← old.mapM fun row =>
      if Relation.meets row conditions then require r ((r.place? row changes).bind r.admit?)
      else return row
    setRows r (← new.foldlM (addRow r .fail) [])
  | delete name conditions => do
    let (r, old) ← table name
    let conditions ← require r (r.conditions? conditions)
    setRows r (old.filter fun row => !Relation.meets row conditions)
  | drop ifExists name => do
    match ← tryCatch (some <$> table name) fun _ => return none with
    | some (r, _) => ExceptT.mk fun db => (.ok (), r.dropped db)
    | none => if ifExists then return () else throw (.missingTable name)
  | begin | commit | rollback => return ()

/-- What a statement does: all of its steps, or none. -/
def run (s : Statement) : Store.Action Unit := Store.transaction s.steps

/-- **A failing statement changes nothing.** -/
theorem run_error {s : Statement} {db after : Database} {e : StoreError}
    (h : s.run.outcome db = (.error e, after)) : after = db :=
  Store.transaction_error h

/-! ### Several statements -/

/-- Puts the database back to where it was. -/
def restore (db : Database) : Store.Action Unit := ExceptT.mk fun _ => (.ok (), db)

/-- Runs statements in order until one fails or cannot be read.  A transaction that is not committed
by the end is undone; `start` is the database at the begin of an open one. -/
def runAll (start : Option Database) : List (Option Statement) → Store.Action Unit
  | [] => start.forM restore
  | none :: _ => do
    start.forM restore
    throw .unreadableStatement
  | some s :: rest => do
    match s, start with
    | .begin, none => runAll (some (← get)) rest
    | .commit, some _ => runAll none rest
    | .rollback, some db =>
      restore db
      runAll none rest
    | .begin, some db =>
      restore db
      throw .unreadableStatement
    | .commit, none | .rollback, none => throw .unreadableStatement
    | s, start =>
      match ← observe s.run with
      | .ok () => runAll start rest
      | .error e =>
        start.forM restore
        throw e
where
  /-- The outcome of an action, whatever it is. -/
  observe (a : Store.Action Unit) : Store.Action (Except StoreError Unit) :=
    ExceptT.mk fun db => let (result, after) := a.outcome db; (.ok result, after)

end Statement

end SmartPlaylist

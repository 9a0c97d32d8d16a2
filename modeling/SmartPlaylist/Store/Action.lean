import SmartPlaylist.Store.Database

/-!
# Actions on the database

An action reads and writes the database and may fail.  A failed action leaves
whatever it had written; only inside a *transaction* does a failure put the
database back to where it was.

## Main definitions

* `StoreError` — why an action fails.
* `Store.Action` — actions.
* `Store.transaction` — all of an action, or nothing of it.
* `Store.rows`, `Store.deleteWhere`, `Store.insert`, `Store.insertOrIgnore`,
  `Store.insertOrReplace`, `Store.insertUnique` — the statements on one table.

## Main results

* `Store.transaction_error` — a failed transaction changes nothing.
-/

namespace SmartPlaylist

/-- Why an action on the database fails. -/
inductive StoreError where
  /-- A statement names a table that is missing. -/
  | missingTable (name : String)
  /-- A row would repeat the key of another. -/
  | duplicateKey (table : String)
  /-- A row does not fit the columns of the table. -/
  | unfitValue (table : String)
  /-- A statement cannot be understood where it stands. -/
  | unreadableStatement
  /-- A stored time is not the text of a moment. -/
  | unreadableTime (text : String)
  /-- The directory of the database cannot be made. -/
  | unusableDirectory (path : String)
  deriving DecidableEq, Repr, Inhabited

/-- What is printed about a failed action. -/
def StoreError.message : StoreError → String
  | .missingTable name => "database error: no such table: " ++ name
  | .duplicateKey table => "database error: UNIQUE constraint failed: " ++ table
  | .unfitValue table => "database error: a value does not fit its column: " ++ table
  | .unreadableStatement => "database error: a statement cannot be understood"
  | .unreadableTime text => "database error: not a time: " ++ text
  | .unusableDirectory path =>
    "cannot create database directory " ++ path ++ ": it cannot be written"

namespace Store

/-- A program that reads and writes the database and may fail. -/
abbrev Action (α : Type) := ExceptT StoreError (StateM Database) α

variable {ρ κ α : Type}

/-- The outcome of an action and the database after it. -/
def Action.outcome (a : Action α) (db : Database) : Except StoreError α × Database := a.run db

/-- Runs an action so that a failure leaves the database as it was. -/
def transaction (a : Action α) : Action α :=
  ExceptT.mk fun db =>
    match a.outcome db with
    | (.ok x, after) => (.ok x, after)
    | (.error e, _) => (.error e, db)

/-- **A failed transaction changes nothing.** -/
theorem transaction_error {a : Action α} {db after : Database} {e : StoreError}
    (h : (transaction a).outcome db = (.error e, after)) : after = db := by
  unfold transaction Action.outcome at h
  simp only [ExceptT.run, ExceptT.mk] at h
  split at h <;> simp_all

/-! ### Statements -/

/-- The rows of a table. -/
def rows (t : Table ρ) : Action (List ρ) :=
  ExceptT.mk fun db =>
    match t.get db with
    | some rs => (.ok rs, db)
    | none => (.error (.missingTable t.name), db)

/-- Makes sure that a table is there, as preparing a statement on it does. -/
def prepare (t : Table ρ) : Action Unit := do
  let _ ← rows t

/-- Changes the rows of a table. -/
def modifyRows (t : Table ρ) (f : List ρ → List ρ) : Action Unit :=
  ExceptT.mk fun db =>
    match t.get db with
    | some rs => (.ok (), t.set (some (f rs)) db)
    | none => (.error (.missingTable t.name), db)

/-- Deletes the rows that satisfy a condition. -/
def deleteWhere (t : Table ρ) (p : ρ → Bool) : Action Unit :=
  modifyRows t fun rs => rs.filter fun r => !p r

/-- Adds a row. -/
def insert (t : Table ρ) (row : ρ) : Action Unit := modifyRows t (· ++ [row])

/-- Adds a row, unless there is one with its key. -/
def insertOrIgnore [DecidableEq κ] (t : Table ρ) (key : ρ → κ) (row : ρ) : Action Unit :=
  modifyRows t fun rs => if rs.any fun r => key r = key row then rs else rs ++ [row]

/-- Adds a row in place of the one with its key, if there is one. -/
def insertOrReplace [DecidableEq κ] (t : Table ρ) (key : ρ → κ) (row : ρ) : Action Unit :=
  modifyRows t fun rs => (rs.filter fun r => key r ≠ key row) ++ [row]

/-- Adds a row whose key must be new. -/
def insertUnique [DecidableEq κ] (t : Table ρ) (key : ρ → κ) (row : ρ) : Action Unit := do
  let rs ← rows t
  if rs.any fun r => key r = key row then throw (.duplicateKey t.name) else insert t row

/-- Adds the missing tables. -/
def initSchema : Action Unit := ExceptT.mk fun db => (.ok (), db.withSchema)

end Store

end SmartPlaylist

import SmartPlaylist.Json.Basic

/-!
# TOML: tables under construction

A document's statements build one tree of tables.  How a table came to be
decides what may still be added to it: a header may open a table that a longer
header only passed through, a dotted key may extend a table that dotted keys
made, and nothing else may be defined twice.

## Main definitions

* `Origin` — how a table came to be.
* `Node`, `Entries` — the tree.
* `Entries.assign` — what a dotted key and its value do.
* `Entries.openTable`, `Entries.openElement` — what a header and the statements under it do.
* `Entries.toJson` — the finished tree as a JSON object.
-/

namespace SmartPlaylist.Toml

/-- How a table came to be. -/
inductive Origin where
  /-- Named by its own header. -/
  | header
  /-- Passed through by a longer header. -/
  | passed
  /-- Made by a dotted key. -/
  | dotted
  deriving DecidableEq, Repr

/-- What a key stands for. -/
inductive Node where
  /-- A finished value. -/
  | value (v : Json)
  | table (origin : Origin) (entries : List (String × Node))
  /-- An array of tables; the last of them is the open one. -/
  | tables (elements : List (List (String × Node)))
  deriving Inhabited

/-- The keys of a table, each once. -/
abbrev Entries := List (String × Node)

namespace Entries

/-- Puts a node under a key, in place of the one that is there. -/
def put (key : String) (node : Node) : Entries → Entries
  | [] => [(key, node)]
  | (k, n) :: rest => if k = key then (k, node) :: rest else (k, n) :: put key node rest

/-- Replaces the last table of an array of tables. -/
def withLast (f : Entries → Option Entries) : List Entries → Option (List Entries)
  | [] => none
  | [last] => (f last).map fun e => [e]
  | first :: next :: rest => (withLast f (next :: rest)).map (first :: ·)

/-- Defines a value under a dotted key.  The tables on the way must be missing or made by dotted
keys; one that a header only passed through, or the last of an array of tables, may be entered
but not be the one that receives the value. -/
def assign (v : Json) : List String → Entries → Option Entries
  | [], _ => none
  | [key], entries =>
    match entries.lookup key with
    | none => some (put key (.value v) entries)
    | some _ => none
  | key :: next :: path, entries =>
    match entries.lookup key with
    | none => do
      let inner ← assign v (next :: path) []
      some (put key (.table .dotted inner) entries)
    | some (.table .dotted inner) => do
      let inner ← assign v (next :: path) inner
      some (put key (.table .dotted inner) entries)
    | some (.table .passed inner) => do
      if path.isEmpty then none
      else
        let inner ← assign v (next :: path) inner
        some (put key (.table .passed inner) entries)
    | some (.tables elements) => do
      if path.isEmpty then none
      else
        let elements ← withLast (assign v (next :: path)) elements
        some (put key (.tables elements) entries)
    | some (.table .header _) => none
    | some (.value _) => none

/-- Changes the node at the end of a header's path; the tables on the way are entered or made. -/
def atPath (change : Option Node → Option Node) : List String → Entries → Option Entries
  | [], _ => none
  | [key], entries => (change (entries.lookup key)).map fun node => put key node entries
  | key :: next :: path, entries =>
    match entries.lookup key with
    | none => do
      let inner ← atPath change (next :: path) []
      some (put key (.table .passed inner) entries)
    | some (.table origin inner) => do
      let inner ← atPath change (next :: path) inner
      some (put key (.table origin inner) entries)
    | some (.tables elements) => do
      let elements ← withLast (atPath change (next :: path)) elements
      some (put key (.tables elements) entries)
    | some (.value _) => none

/-- Defines values under dotted keys, one after another. -/
def assignAll (body : List (List String × Json)) (entries : Entries) : Option Entries :=
  body.foldlM (fun entries (path, v) => assign v path entries) entries

/-- Opens the table at a path and defines values in it; the table must be new or only passed
through. -/
def openTable (path : List String) (body : List (List String × Json)) :
    Entries → Option Entries :=
  atPath (fun
    | none => (assignAll body []).map (.table .header)
    | some (.table .passed inner) => (assignAll body inner).map (.table .header)
    | some _ => none) path

/-- Adds an element to the array of tables at a path and defines values in it. -/
def openElement (path : List String) (body : List (List String × Json)) :
    Entries → Option Entries :=
  atPath (fun
    | none => (assignAll body []).map fun e => .tables [e]
    | some (.tables elements) => (assignAll body []).map fun e => .tables (elements ++ [e])
    | some _ => none) path

end Entries

mutual

/-- The finished value of a node. -/
def Node.toJson : Node → Json
  | .value v => v
  | .table _ entries => .object (fieldsJson entries)
  | .tables elements => .array (elementsJson elements)

/-- The fields of finished tables. -/
def fieldsJson : List (String × Node) → List (String × Json)
  | [] => []
  | (key, node) :: rest => (key, node.toJson) :: fieldsJson rest

/-- The elements of a finished array of tables. -/
def elementsJson : List (List (String × Node)) → List Json
  | [] => []
  | entries :: rest => .object (fieldsJson entries) :: elementsJson rest

end

/-- A finished table. -/
def Entries.toJson (entries : Entries) : Json := .object (fieldsJson entries)

end SmartPlaylist.Toml

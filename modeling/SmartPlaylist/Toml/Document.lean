import SmartPlaylist.Toml.Scalar
import SmartPlaylist.Toml.Table

/-!
# TOML documents

A document is a list of statements, one a line: a dotted key with its value, the
header of a table, or the header of an element of an array of tables.  The
statements under a header belong to its table.

## Main definitions

* `value` — a value of any kind.
* `Section` — a header with the values under it.
* `sections` — the statements of a document.
* `parse` — a document as a JSON object.
-/

namespace SmartPlaylist.Toml

/-! ### Values -/

/-- Reads items separated by commas up to the closing bracket; a comma may stand after the last
one. -/
def items (item : Reader Json) : Nat → Reader (List Json)
  | 0, _ => none
  | fuel + 1, cs => do
    match ← skipSpace cs with
    | ']' :: rest => some ([], rest)
    | cs =>
      let (first, cs) ← item cs
      match ← skipSpace cs with
      | ',' :: rest =>
        let (others, rest) ← items item fuel rest
        some (first :: others, rest)
      | ']' :: rest => some ([first], rest)
      | _ => none

/-- Reads a key, the sign of equality and a value. -/
def keyValue (item : Reader Json) (cs : List Char) :
    Option ((List String × Json) × List Char) := do
  let (path, cs) ← key cs
  match cs with
  | '=' :: rest =>
    let (v, rest) ← item (rest.dropWhile isBlank)
    some ((path, v), rest)
  | _ => none

/-- Reads keys with values, separated by commas, up to the closing brace; at least one. -/
def pairs (item : Reader Json) : Nat → Reader (List (List String × Json))
  | 0, _ => none
  | fuel + 1, cs => do
    let (first, cs) ← keyValue item cs
    match cs.dropWhile isBlank with
    | ',' :: rest =>
      let (others, rest) ← pairs item fuel rest
      some (first :: others, rest)
    | '\x7d' :: rest => some ([first], rest)
    | _ => none

/-- Reads a value in which arrays and inline tables nest at most `depth` deep. -/
def value : Nat → Reader Json
  | 0, cs => scalar cs
  | depth + 1, cs =>
    match cs with
    | '[' :: rest =>
      (items (value depth) (rest.length + 1) rest).map fun (xs, rest) => (.array xs, rest)
    | '\x7b' :: rest =>
      match rest.dropWhile isBlank with
      | '\x7d' :: rest => some (.object [], rest)
      | rest => do
        let (fields, rest) ← pairs (value depth) (rest.length + 1) rest
        let entries ← Entries.assignAll fields []
        some (entries.toJson, rest)
    | cs => scalar cs

/-! ### Statements -/

/-- What a header names. -/
inductive Header where
  | table (path : List String)
  | element (path : List String)
  deriving DecidableEq, Repr

/-- A header with the values defined under it, in order. -/
structure Section where
  header : Header
  body : List (List String × Json)

/-- Reads a header. -/
def header : Reader Header
  | '[' :: '[' :: rest => do
    let (path, rest) ← key rest
    match rest with
    | ']' :: ']' :: rest => some (.element path, rest)
    | _ => none
  | '[' :: rest => do
    let (path, rest) ← key rest
    match rest with
    | ']' :: rest => some (.table path, rest)
    | _ => none
  | _ => none

/-- Reads the statements of a document: the values before the first header, and the sections.  The
fuel bounds the number of lines. -/
def sections : Nat → List Char → Option (List (List String × Json) × List Section)
  | 0, _ => none
  | fuel + 1, cs =>
    match cs.dropWhile isBlank with
    | [] => some ([], [])
    | '#' :: rest => (lineEnd ('#' :: rest)).bind (sections fuel)
    | '\n' :: rest => sections fuel rest
    | '\r' :: rest => (lineBreak ('\r' :: rest)).bind (sections fuel)
    | '[' :: rest => do
      let (h, rest) ← header ('[' :: rest)
      let (body, others) ← (lineEnd rest).bind (sections fuel)
      some ([], ⟨h, body⟩ :: others)
    | cs => do
      let (statement, rest) ← keyValue (value (nestingLimit - 1)) cs
      let (body, others) ← (lineEnd rest).bind (sections fuel)
      some (statement :: body, others)

/-- What a section does to the document. -/
def Section.define (entries : Entries) (s : Section) : Option Entries :=
  match s.header with
  | .table path => entries.openTable path s.body
  | .element path => entries.openElement path s.body

/-- Reads a document as a JSON object; `none` if it is not TOML.  A byte order mark in front does
not count. -/
def parse (s : String) : Option Json := do
  let cs := match s.toList with
    | '\uFEFF' :: rest => rest
    | cs => cs
  let (body, others) ← sections (cs.length + 1) cs
  let top ← Entries.assignAll body []
  let entries ← others.foldlM Section.define top
  some entries.toJson

end SmartPlaylist.Toml

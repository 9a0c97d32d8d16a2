import SmartPlaylist.Store.Cell
import SmartPlaylist.Store.Database

/-!
# The catalog

The tables as a statement or a file sees them: named columns of a kind, and rows
of cells, where an absent value has no cell.  A typed row is
determined by its cells, so the catalog adds nothing to what the database holds.

## Main definitions

* `StoredColumn`, `StoredRow`, `Relation` — what is known about a table beside its rows.
* `Catalog.relations`, `Catalog.find?` — the tables, and one by its name.

## Main results

* `Catalog.features?_ofFeatures` — a row of features is determined by its cells.
-/

namespace SmartPlaylist

/-- What the values of a column are. -/
inductive ColumnKind where
  | text
  | whole
  | real
  deriving DecidableEq, Repr, Inhabited

/-- A column of a table. -/
structure StoredColumn where
  name : String
  kind : ColumnKind
  /-- Whether every row has a value there. -/
  required : Bool := true
  deriving DecidableEq, Repr, Inhabited

/-- A row: a cell for each column, or none where the value is absent. -/
abbrev StoredRow := List (Option Cell)

/-- A table whose rows are lists of cells. -/
structure Relation where
  name : String
  columns : List StoredColumn
  /-- How many of the first columns tell the rows apart; none do if rows may repeat. -/
  keySize : Nat
  /-- The rows, unless the table is missing. -/
  rows : Database → Option (List StoredRow)
  /-- The database with other rows, if they are rows of this table. -/
  withRows : List StoredRow → Database → Option Database
  /-- The database without the table. -/
  dropped : Database → Database

namespace Relation

variable {ρ : Type}

/-- A table as a relation. -/
def ofTable (t : Table ρ) (columns : List StoredColumn) (keySize : Nat)
    (toCells : ρ → StoredRow) (ofCells? : StoredRow → Option ρ) : Relation where
  name := t.name
  columns := columns
  keySize := keySize
  rows db := (t.get db).map fun rs => rs.map toCells
  withRows rs db := (rs.mapM ofCells?).map fun rs => t.set (some rs) db
  dropped := t.set none

/-- The columns of texts with these names. -/
def textColumns (names : List String) : List StoredColumn := names.map (⟨·, .text, true⟩)

/-- A table of two texts as a relation. -/
def ofPairs (t : Table ρ) (names : List String) (keySize : Nat) (parts : ρ → String × String)
    (make : String → String → ρ) : Relation :=
  ofTable t (textColumns names) keySize
    (fun r => [some (.text (parts r).1), some (.text (parts r).2)])
    fun
      | [some (.text a), some (.text b)] => some (make a b)
      | _ => none

end Relation

namespace Catalog

/-! ### Rows of features -/

/-- Reads the cell of a real feature. -/
def real? : Option Cell → Option (Option Float)
  | none => some none
  | some (.real x) => some (some x)
  | _ => none

/-- Reads the cell of a whole feature. -/
def whole? : Option Cell → Option (Option Int64)
  | none => some none
  | some (.whole n) => some (some n)
  | _ => none

/-- The kind of a feature's column. -/
def featureKind : Feature → ColumnKind
  | .durationMs | .key | .mode | .timeSignature => .whole
  | _ => .real

/-- The cells of a row of features. -/
def ofFeatures (r : FeatureRow) : StoredRow :=
  some (.text r.trackId) :: r.values.toList.map fun
    | .inl x => x.map .real
    | .inr n => n.map .whole

/-- Reads a row of features. -/
def features? : StoredRow → Option FeatureRow
  | [some (.text id), a, b, c, d, e, f, g, h, i, j, k, l, m] => do
    some ⟨id, {
      acousticness := ← real? a
      danceability := ← real? b
      durationMs := ← whole? c
      energy := ← real? d
      instrumentalness := ← real? e
      key := ← whole? f
      liveness := ← real? g
      loudness := ← real? h
      mode := ← whole? i
      speechiness := ← real? j
      tempo := ← real? k
      timeSignature := ← whole? l
      valence := ← real? m }⟩
  | _ => none

theorem real?_map (x : Option Float) : real? (x.map .real) = some x := by cases x <;> rfl

theorem whole?_map (n : Option Int64) : whole? (n.map .whole) = some n := by cases n <;> rfl

/-- **A row of features is determined by its cells.** -/
theorem features?_ofFeatures (r : FeatureRow) : features? (ofFeatures r) = some r := by
  simp [features?, ofFeatures, FeatureVector.toList, FeatureVector.get, Feature.all, real?_map,
    whole?_map]

/-! ### The relations -/

/-- The saved tracks. -/
def libraryTracks : Relation :=
  .ofTable .libraryTracks (Relation.textColumns ["track_id", "track_name", "date_added"]) 1
    (fun r => [some (.text r.trackId), some (.text r.name), some (.text r.dateAdded)])
    fun
      | [some (.text id), some (.text name), some (.text added)] => some ⟨id, name, added⟩
      | _ => none

/-- The artists of saved tracks. -/
def trackArtists : Relation :=
  .ofPairs .trackArtists ["track_id", "artist_id"] 2 (fun r => (r.trackId, r.artistId)) .mk

/-- The artists. -/
def artists : Relation := .ofPairs .artists ["id", "name"] 1 (fun r => (r.id, r.name)) .mk

/-- The genres of artists. -/
def artistGenres : Relation :=
  .ofPairs .artistGenres ["artist_id", "genre"] 2 (fun r => (r.artistId, r.genre)) .mk

/-- The features of tracks. -/
def audioFeatures : Relation :=
  .ofTable .audioFeatures
    (⟨"track_id", .text, true⟩ :: Feature.all.map fun f => ⟨f.name, featureKind f, false⟩) 1
    ofFeatures features?

/-- The plays. -/
def playHistory : Relation :=
  .ofPairs .playHistory ["track_id", "played_at"] 0 (fun r => (r.trackId, r.playedAt)) .mk

/-- The candidate tracks of playlists.  Any number but zero lets a track rotate. -/
def rootPlaylists : Relation :=
  .ofTable .rootPlaylists (Relation.textColumns ["name", "track_id"] ++ [⟨"rotate", .whole, true⟩])
    2 (fun r =>
      [some (.text r.name), some (.text r.trackId), some (.whole (if r.rotate then 1 else 0))])
    fun
      | [some (.text name), some (.text trackId), some (.whole n)] => some ⟨name, trackId, n ≠ 0⟩
      | _ => none

/-- The credentials of services. -/
def credentials : Relation :=
  .ofPairs .credentials ["service", "creds"] 0 (fun r => (r.service, r.creds)) .mk

/-- Every table. -/
def relations : List Relation :=
  [libraryTracks, trackArtists, artists, artistGenres, audioFeatures, playHistory, rootPlaylists,
    credentials]

/-- The table of a name; upper and lower case are one. -/
def find? (name : String) : Option Relation :=
  relations.find? fun r => r.name = name.toLower

end Catalog

end SmartPlaylist

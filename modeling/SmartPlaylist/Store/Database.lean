import SmartPlaylist.Definition.Feature

/-!
# The database

Eight tables, each of which may be missing.  Times are kept as text, whole and
real features in columns of their own kinds, and any feature may be absent.

## Main definitions

* `LibraryTrackRow`, … — the rows of each table.
* `Database` — the tables.
* `Table` — a table by name, with access to its rows; `Table.key` where rows have
  a key.
* `Database.withSchema` — every table there, the missing ones empty.
-/

namespace SmartPlaylist

/-! ### Rows -/

/-- A track of the library. -/
structure LibraryTrackRow where
  trackId : String
  name : String
  /-- When it was saved, as stored text. -/
  dateAdded : String
  deriving DecidableEq, Repr

/-- One artist of a track. -/
structure TrackArtistRow where
  trackId : String
  artistId : String
  deriving DecidableEq, Repr

/-- An artist. -/
structure ArtistRow where
  id : String
  name : String
  deriving DecidableEq, Repr

/-- One genre of an artist. -/
structure ArtistGenreRow where
  artistId : String
  genre : String
  deriving DecidableEq, Repr

/-- The features of a track. -/
structure FeatureRow where
  trackId : String
  values : FeatureVector (Option Float) (Option Int64)
  deriving DecidableEq

/-- A play of a track. -/
structure PlayRow where
  trackId : String
  /-- When it was played, as stored text. -/
  playedAt : String
  deriving DecidableEq, Repr

/-- A candidate track of a playlist. -/
structure RootRow where
  name : String
  trackId : String
  rotate : Bool
  deriving DecidableEq, Repr

/-- A service's credentials, encrypted. -/
structure CredentialRow where
  service : String
  creds : String
  deriving DecidableEq, Repr

/-! ### Tables -/

/-- The tables, `none` for one that is missing.  Rows stand in the order in which they were
inserted. -/
structure Database where
  libraryTracks : Option (List LibraryTrackRow) := none
  trackArtists : Option (List TrackArtistRow) := none
  artists : Option (List ArtistRow) := none
  artistGenres : Option (List ArtistGenreRow) := none
  audioFeatures : Option (List FeatureRow) := none
  playHistory : Option (List PlayRow) := none
  rootPlaylists : Option (List RootRow) := none
  credentials : Option (List CredentialRow) := none
  deriving DecidableEq, Inhabited

namespace Database

/-- The database with every missing table added without rows. -/
def withSchema (db : Database) : Database where
  libraryTracks := some (db.libraryTracks.getD [])
  trackArtists := some (db.trackArtists.getD [])
  artists := some (db.artists.getD [])
  artistGenres := some (db.artistGenres.getD [])
  audioFeatures := some (db.audioFeatures.getD [])
  playHistory := some (db.playHistory.getD [])
  rootPlaylists := some (db.rootPlaylists.getD [])
  credentials := some (db.credentials.getD [])

/-- A database with all tables and no rows. -/
def fresh : Database := ({} : Database).withSchema

end Database

/-- A table of the database. -/
structure Table (ρ : Type) where
  name : String
  get : Database → Option (List ρ)
  set : Option (List ρ) → Database → Database

namespace Table

def libraryTracks : Table LibraryTrackRow :=
  ⟨"library_tracks", (·.libraryTracks), fun rows db => { db with libraryTracks := rows }⟩

def trackArtists : Table TrackArtistRow :=
  ⟨"track_artists", (·.trackArtists), fun rows db => { db with trackArtists := rows }⟩

def artists : Table ArtistRow :=
  ⟨"artists", (·.artists), fun rows db => { db with artists := rows }⟩

def artistGenres : Table ArtistGenreRow :=
  ⟨"artist_genres", (·.artistGenres), fun rows db => { db with artistGenres := rows }⟩

def audioFeatures : Table FeatureRow :=
  ⟨"track_audio_features", (·.audioFeatures), fun rows db => { db with audioFeatures := rows }⟩

def playHistory : Table PlayRow :=
  ⟨"play_history", (·.playHistory), fun rows db => { db with playHistory := rows }⟩

def rootPlaylists : Table RootRow :=
  ⟨"root_playlists", (·.rootPlaylists), fun rows db => { db with rootPlaylists := rows }⟩

def credentials : Table CredentialRow :=
  ⟨"credentials", (·.credentials), fun rows db => { db with credentials := rows }⟩

end Table

end SmartPlaylist

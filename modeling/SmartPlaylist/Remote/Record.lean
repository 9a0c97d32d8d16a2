import SmartPlaylist.Definition.Feature
import SmartPlaylist.Json.Kind

/-!
# Records of the remote service

The parts of the service's answers that are kept.  Unknown fields are ignored.

## Main definitions

* `TrackRecord`, `SavedTrack`, `PlayedTrack`, `RemoteArtist`, `RemoteFeatures`,
  `RemotePlaylist` — the records, each with its reader from JSON and its kind.
-/

namespace SmartPlaylist

/-- An artist of a track; one without id is not in the catalogue. -/
structure ArtistRef where
  id : Option String
  name : String
  deriving DecidableEq, Repr, Inhabited

/-- A track; a local file has no id. -/
structure TrackRecord where
  id : Option String
  name : String
  artists : List ArtistRef
  deriving DecidableEq, Repr, Inhabited

/-- A track in the user's library. -/
structure SavedTrack where
  addedAt : String
  track : TrackRecord
  deriving DecidableEq, Repr, Inhabited

/-- A track in the user's history. -/
structure PlayedTrack where
  track : TrackRecord
  playedAt : String
  deriving DecidableEq, Repr, Inhabited

/-- An artist with all genres. -/
structure RemoteArtist where
  id : String
  name : String
  genres : List String
  deriving DecidableEq, Repr, Inhabited

/-- The features of a track. -/
structure RemoteFeatures where
  id : String
  values : FeatureVector Float Int64
  deriving DecidableEq, Inhabited

/-- A playlist of the user. -/
structure RemotePlaylist where
  id : String
  name : String
  deriving DecidableEq, Repr, Inhabited

/-- A page of a listing. -/
structure Page (α : Type) where
  items : List α
  /-- Whether more items follow. -/
  hasNext : Bool
  deriving DecidableEq, Repr, Inhabited

/-! ### Readers -/

/-- Reads the artist of a track. -/
def ArtistRef.ofJson? (v : Json) : Option ArtistRef :=
  match v.slots ["id", "name"] with
  | some [id, name] => do
    let id ← id.optional Json.text?
    let name ← name.required Json.text?
    some ⟨id, name⟩
  | _ => none

/-- How the artist of a track is read from text. -/
def ArtistRef.kind : Json.Kind ArtistRef := ⟨.plain ["id", "name"], ofJson?⟩

/-- Reads a track; the artists may be left out. -/
def TrackRecord.ofJson? (v : Json) : Option TrackRecord :=
  match v.slots ["id", "name", "artists"] with
  | some [id, name, artists] => do
    let id ← id.optional Json.text?
    let name ← name.required Json.text?
    let artists ← artists.defaulted [] (Json.list? ArtistRef.ofJson?)
    some ⟨id, name, artists⟩
  | _ => none

/-- How a track is read from text. -/
def TrackRecord.kind : Json.Kind TrackRecord :=
  ⟨.record [("id", .everything), ("name", .everything), ("artists", ArtistRef.kind.list.shape)],
    ofJson?⟩

/-- Reads a saved track. -/
def SavedTrack.ofJson? (v : Json) : Option SavedTrack :=
  match v.slots ["added_at", "track"] with
  | some [addedAt, track] => do
    let addedAt ← addedAt.required Json.text?
    let track ← track.required TrackRecord.ofJson?
    some ⟨addedAt, track⟩
  | _ => none

/-- How a saved track is read from text. -/
def SavedTrack.kind : Json.Kind SavedTrack :=
  ⟨.record [("added_at", .everything), ("track", TrackRecord.kind.shape)], ofJson?⟩

/-- Reads a played track. -/
def PlayedTrack.ofJson? (v : Json) : Option PlayedTrack :=
  match v.slots ["track", "played_at"] with
  | some [track, playedAt] => do
    let track ← track.required TrackRecord.ofJson?
    let playedAt ← playedAt.required Json.text?
    some ⟨track, playedAt⟩
  | _ => none

/-- How a played track is read from text. -/
def PlayedTrack.kind : Json.Kind PlayedTrack :=
  ⟨.record [("track", TrackRecord.kind.shape), ("played_at", .everything)], ofJson?⟩

/-- Reads an artist; the genres may be left out. -/
def RemoteArtist.ofJson? (v : Json) : Option RemoteArtist :=
  match v.slots ["id", "name", "genres"] with
  | some [id, name, genres] => do
    let id ← id.required Json.text?
    let name ← name.required Json.text?
    let genres ← genres.defaulted [] (Json.list? Json.text?)
    some ⟨id, name, genres⟩
  | _ => none

/-- How an artist is read from text. -/
def RemoteArtist.kind : Json.Kind RemoteArtist := ⟨.plain ["id", "name", "genres"], ofJson?⟩

/-- Reads the features of a track: the id, then every feature in the order of `Feature.all`. -/
def RemoteFeatures.ofJson? (v : Json) : Option RemoteFeatures :=
  match v.slots ("id" :: Feature.all.map Feature.name) with
  | some [id, acousticness, danceability, durationMs, energy, instrumentalness, key, liveness,
      loudness, mode, speechiness, tempo, timeSignature, valence] => do
    let real := fun (s : Slot) => s.required Json.double?
    let whole := fun (s : Slot) => s.required Json.integer?
    let id ← id.required Json.text?
    some ⟨id, {
      acousticness := ← real acousticness
      danceability := ← real danceability
      durationMs := ← whole durationMs
      energy := ← real energy
      instrumentalness := ← real instrumentalness
      key := ← whole key
      liveness := ← real liveness
      loudness := ← real loudness
      mode := ← whole mode
      speechiness := ← real speechiness
      tempo := ← real tempo
      timeSignature := ← whole timeSignature
      valence := ← real valence }⟩
  | _ => none

/-- How the features of a track are read from text. -/
def RemoteFeatures.kind : Json.Kind RemoteFeatures :=
  ⟨.plain ("id" :: Feature.all.map Feature.name), ofJson?⟩

/-- Reads a playlist. -/
def RemotePlaylist.ofJson? (v : Json) : Option RemotePlaylist :=
  match v.slots ["id", "name"] with
  | some [id, name] => do
    let id ← id.required Json.text?
    let name ← name.required Json.text?
    some ⟨id, name⟩
  | _ => none

/-- How a playlist is read from text. -/
def RemotePlaylist.kind : Json.Kind RemotePlaylist := ⟨.plain ["id", "name"], ofJson?⟩

end SmartPlaylist

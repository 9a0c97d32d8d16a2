import SmartPlaylist.Store.Action
import SmartPlaylist.Text.Sorted
import SmartPlaylist.Time.StoredText

/-!
# The stored library

The saved tracks with their artists, and what is known about artists and tracks.
The saved tracks are replaced as a whole; the rest is added to, one record in
place of another of the same id.

## Main definitions

* `LibraryTrack`, `ArtistRecord`, `FeatureRecord` — what is written.
* `Store.replaceLibrary`, `Store.upsertArtists`, `Store.upsertFeatures` — the
  writes.
* `Store.missingArtistIds`, `Store.missingFeatureIds` — what is still unknown.
-/

namespace SmartPlaylist

/-- A saved track. -/
structure LibraryTrack where
  trackId : String
  name : String
  dateAdded : Moment
  artistIds : List String
  deriving DecidableEq, Repr

/-- An artist with all genres. -/
structure ArtistRecord where
  id : String
  name : String
  genres : List String
  deriving DecidableEq, Repr

/-- The features that the service reports for a track. -/
structure FeatureRecord where
  trackId : String
  values : FeatureVector Float Int64
  deriving DecidableEq

namespace Store

/-! ### Saved tracks -/

/-- Writes a saved track and its artists; a later track takes the place of an earlier one of the
same id, but the artists of both stay. -/
def writeTrack (track : LibraryTrack) : Action Unit := do
  insertOrReplace .libraryTracks LibraryTrackRow.trackId
    ⟨track.trackId, track.name, track.dateAdded.storedText⟩
  track.artistIds.forM fun artistId =>
    insertOrIgnore .trackArtists (fun r => (r.trackId, r.artistId)) ⟨track.trackId, artistId⟩

/-- Replaces the saved tracks and their artists, all at once; gives the number of tracks. -/
def replaceLibrary (tracks : List LibraryTrack) : Action Nat :=
  transaction do
    deleteWhere .trackArtists fun _ => true
    deleteWhere .libraryTracks fun _ => true
    tracks.forM writeTrack
    return tracks.length

/-! ### Artists -/

/-- Writes an artist and replaces the artist's genres. -/
def writeArtist (artist : ArtistRecord) : Action Unit := do
  insertOrReplace .artists ArtistRow.id ⟨artist.id, artist.name⟩
  deleteWhere .artistGenres fun r => r.artistId = artist.id
  artist.genres.forM fun genre =>
    insertOrIgnore .artistGenres (fun r => (r.artistId, r.genre)) ⟨artist.id, genre⟩

/-- Writes artists, all at once; gives their number. -/
def upsertArtists (artists : List ArtistRecord) : Action Nat :=
  transaction do
    prepare .artists
    prepare .artistGenres
    artists.forM writeArtist
    return artists.length

/-- The artists of saved tracks about whom nothing is stored, in order. -/
def missingArtistIds : Action (List String) := do
  let links ← rows .trackArtists
  let artists ← rows .artists
  return Text.distinct
    ((links.map TrackArtistRow.artistId).filter fun id => !artists.any fun a => a.id = id)

/-! ### Features -/

/-- A real feature as it is stored: nothing for NaN, and zero without a sign. -/
def storedReal (x : Float) : Option Float :=
  if x.isNaN then none else if x == 0 then some 0 else some x

/-- The features as they are stored. -/
def storedFeatures (values : FeatureVector Float Int64) :
    FeatureVector (Option Float) (Option Int64) :=
  values.map storedReal some

/-- Writes the features of tracks, all at once; gives their number. -/
def upsertFeatures (features : List FeatureRecord) : Action Nat :=
  transaction do
    prepare .audioFeatures
    features.forM fun f =>
      insertOrReplace .audioFeatures FeatureRow.trackId ⟨f.trackId, storedFeatures f.values⟩
    return features.length

/-- The saved tracks without stored features, in order. -/
def missingFeatureIds : Action (List String) := do
  let tracks ← rows .libraryTracks
  let features ← rows .audioFeatures
  return Text.sorted
    ((tracks.map LibraryTrackRow.trackId).filter fun id => !features.any fun f => f.trackId = id)

end Store

end SmartPlaylist

import SmartPlaylist.Playlist.Error
import SmartPlaylist.Playlist.Sync
import SmartPlaylist.Remote.Batch
import SmartPlaylist.Store.History
import SmartPlaylist.Store.Library
import SmartPlaylist.Time.Rfc3339

/-!
# Pulling the user's data

Jobs that copy the user's data from the service into the store.  The saved tracks
are read to the end before any is stored.  Artists and features are asked for only
where nothing is stored, in batches, and every batch is stored before the next is
asked for, so a job that fails keeps what it has.

## Main definitions

* `pullLibrary`, `pullHistory`, `pullArtists`, `pullFeatures` — the jobs; each gives
  the number of records written.
* `pullAll` — all of them, the saved tracks first.
-/

namespace SmartPlaylist

/-- How many records each job wrote. -/
structure PullSummary where
  libraryTracks : Nat
  plays : Nat
  artists : Nat
  audioFeatures : Nat
  deriving DecidableEq, Repr, Inhabited

namespace Pull

variable {σ : Type}

/-! ### Saved tracks -/

/-- The track to store for a saved one: none for a local file, and none, with a warning, when the
time at which it was saved cannot be read. -/
def libraryTrack (saved : SavedTrack) : Job σ RunError (Option LibraryTrack) :=
  match saved.track.id with
  | none => return none
  | some id =>
    match Rfc3339.parse saved.addedAt with
    | some added =>
      return some ⟨id, saved.track.name, added, saved.track.artists.filterMap ArtistRef.id⟩
    | none => do
      Job.tell (.savedTrackSkipped id saved.addedAt)
      return none

/-- Reads the saved tracks from an offset on. -/
def savedTracksFrom (service : LibraryService σ) (offset : Nat) :
    Job σ RunError (List LibraryTrack) := do
  let page ← (Job.call (service.savedTracks offset savedTrackPageSize)).failAs .remote
  let tracks ← page.items.filterMapM libraryTrack
  if h : !page.hasNext || page.items.isEmpty then return tracks
  else if _ : offset + page.items.length < listingLimit then
    have : 0 < page.items.length := by
      have := page.items.length_pos_iff
      simp_all
    let rest ← savedTracksFrom service (offset + page.items.length)
    return tracks ++ rest
  else throw (.remote .endlessListing)
termination_by listingLimit - offset

/-! ### Plays -/

/-- The play to store for a played track: none for a local file, and none when the time cannot be
read. -/
def play? (played : PlayedTrack) : Option Play := do
  let id ← played.track.id
  let playedAt ← Rfc3339.parse played.playedAt
  some ⟨id, playedAt⟩

/-! ### Batches -/

/-- Asks for one batch after another, writes each answer, and adds up the numbers written. -/
def inBatches {α : Type} (ask : List String → Call σ (List α))
    (write : List α → Store.Action Nat) : List (List String) → Nat → Job σ RunError Nat
  | [], written => return written
  | batch :: rest, written => do
    let records ← (Job.call (ask batch)).failAs .remote
    let n ← (Job.store (write records)).failAs .store
    inBatches ask write rest (written + n)

end Pull

variable {σ : Type}

/-- Replaces the stored library with the user's saved tracks. -/
def pullLibrary (service : LibraryService σ) : Job σ RunError Nat := do
  let tracks ← Pull.savedTracksFrom service 0
  (Job.store (Store.replaceLibrary tracks)).failAs .store

/-- Adds the plays since the latest stored one. -/
def pullHistory (service : LibraryService σ) : Job σ RunError Nat := do
  let after ← (Job.store Store.latestPlayedAt).failAs .store
  let items ← (Job.call (service.recentlyPlayed after)).failAs .remote
  (Job.store (Store.appendPlays (items.filterMap Pull.play?))).failAs .store

/-- Adds the artists of saved tracks about whom nothing is stored. -/
def pullArtists (service : LibraryService σ) : Job σ RunError Nat := do
  let missing ← (Job.store Store.missingArtistIds).failAs .store
  Pull.inBatches service.artists
    (fun found => Store.upsertArtists (found.map fun a => ⟨a.id, a.name, a.genres⟩))
    (batches artistBatchSize missing) 0

/-- Adds the features of saved tracks for which none are stored. -/
def pullFeatures (service : LibraryService σ) : Job σ RunError Nat := do
  let missing ← (Job.store Store.missingFeatureIds).failAs .store
  Pull.inBatches service.audioFeatures
    (fun found => Store.upsertFeatures (found.map fun f => ⟨f.id, f.values⟩))
    (batches featureBatchSize missing) 0

/-- Runs every job. -/
def pullAll (service : LibraryService σ) : Job σ RunError PullSummary := do
  let libraryTracks ← pullLibrary service
  let plays ← pullHistory service
  let artists ← pullArtists service
  let audioFeatures ← pullFeatures service
  return ⟨libraryTracks, plays, artists, audioFeatures⟩

end SmartPlaylist

import SmartPlaylist.Remote.Error
import SmartPlaylist.Remote.Record
import SmartPlaylist.Time.Moment

/-!
# The remote service

What the program asks of the service, as two interfaces: one for the user's
playlists and for recommendations, one for the user's library and history.  The
service has a state of its own that every call may change; a call gives a result
and may leave remarks for the user.

## Main definitions

* `RemoteNotice` — the remarks.
* `Reply`, `Call` — the outcome of a call, and calls.
* `PlaylistService`, `LibraryService` — the interfaces.
-/

namespace SmartPlaylist

/-- A remark that a call leaves for the user. -/
inductive RemoteNotice where
  /-- The service asked to wait for longer than a call waits. -/
  | longWait (seconds : Nat)
  /-- A refreshed token could not be kept. -/
  | tokenNotSaved (cause : String)
  deriving DecidableEq, Repr, Inhabited

/-- What a call comes to. -/
structure Reply (α : Type) where
  result : Except RemoteError α
  notices : List RemoteNotice := []

/-- A call of a service with states `σ`. -/
abbrev Call (σ α : Type) := σ → Reply α × σ

/-- What the program asks of the user's playlists. -/
structure PlaylistService (σ : Type) where
  /-- A page of the user's playlists, from an offset on and of at most so many items. -/
  userPlaylists (offset limit : Nat) : Call σ (Page RemotePlaylist)
  /-- Creates a playlist of that name and gives its id. -/
  createPlaylist (name : String) : Call σ String
  /-- Makes the tracks of a playlist exactly these, in order. -/
  replaceTracks (playlistId : String) (trackIds : List String) : Call σ Unit
  /-- Track ids that go with the seeds, about so many. -/
  recommendations (seeds : List String) (limit : Nat) : Call σ (List String)

/-- What the program asks of the user's library. -/
structure LibraryService (σ : Type) where
  /-- A page of the saved tracks, from an offset on and of at most so many items. -/
  savedTracks (offset limit : Nat) : Call σ (Page SavedTrack)
  /-- The latest plays, after a moment if one is given. -/
  recentlyPlayed (after : Option Moment) : Call σ (List PlayedTrack)
  /-- The artists of those ids. -/
  artists (ids : List String) : Call σ (List RemoteArtist)
  /-- The features of the tracks of those ids. -/
  audioFeatures (ids : List String) : Call σ (List RemoteFeatures)

end SmartPlaylist

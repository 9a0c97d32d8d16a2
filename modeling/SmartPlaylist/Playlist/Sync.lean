import SmartPlaylist.Remote.Batch
import SmartPlaylist.Session.Job

/-!
# Syncing a playlist

The tracks of the remote playlist of a name are replaced as a whole; the playlist
is created when there is none.  Of several playlists of one name the first in the
user's listing counts.

## Main definitions

* `findPlaylist` — the playlist of a name.
* `syncPlaylist` — makes it hold exactly the given tracks.
-/

namespace SmartPlaylist

/-- What a sync came to. -/
structure SyncOutcome where
  playlistId : String
  /-- Whether the playlist did not exist before. -/
  created : Bool
  /-- How many tracks it holds now. -/
  tracks : Nat
  deriving DecidableEq, Repr, Inhabited

variable {σ : Type}

/-- Looks for a playlist of that name from an offset on. -/
def findPlaylistFrom (service : PlaylistService σ) (name : String) (offset : Nat) :
    Job σ RemoteError (Option String) := do
  let page ← Job.call (service.userPlaylists offset playlistPageSize)
  match page.items.find? fun p => p.name = name with
  | some found => return some found.id
  | none =>
    if h : !page.hasNext || page.items.isEmpty then return none
    else if _ : offset + page.items.length < listingLimit then
      have : 0 < page.items.length := by
        have := page.items.length_pos_iff
        simp_all
      findPlaylistFrom service name (offset + page.items.length)
    else throw .endlessListing
termination_by listingLimit - offset

/-- The id of the user's first playlist of that name. -/
def findPlaylist (service : PlaylistService σ) (name : String) :
    Job σ RemoteError (Option String) :=
  findPlaylistFrom service name 0

/-- Makes sure that a playlist of that name exists and holds exactly these tracks. -/
def syncPlaylist (service : PlaylistService σ) (name : String) (tracks : List String) :
    Job σ RemoteError SyncOutcome := do
  let (playlistId, created) ← match ← findPlaylist service name with
    | some id => pure (id, false)
    | none => do
      Job.tell (.creatingPlaylist name)
      let id ← Job.call (service.createPlaylist name)
      pure (id, true)
  Job.tell (.replacingTracks name tracks.length)
  Job.call (service.replaceTracks playlistId tracks)
  return ⟨playlistId, created, tracks.length⟩

end SmartPlaylist

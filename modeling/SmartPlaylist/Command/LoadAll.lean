import SmartPlaylist.Playlist.Load

/-!
# Loading all playlists

Every stored root playlist is loaded once, in the order of the names; a failing
one is reported and does not keep the others from their turn.

## Main definitions

* `loadEach` — the runs for some names, counting those that succeed.
* `loadAll` — all of them, and the count at the end.
-/

namespace SmartPlaylist

variable {σ ε : Type}

/-- Loads one playlist after another, says what came of each, and counts the successes. -/
def loadEach (service : PlaylistService σ) (options : SelectionOptions) (now : Moment) :
    List String → Job σ ε Nat
  | [] => return 0
  | name :: rest => do
    let synced ← match ← (loadPlaylist service name options now).attempt with
      | .ok outcome => do
        Job.tell (.playlistSynced name outcome.tracks)
        pure 1
      | .error e => do
        Job.tell (.playlistNotUpdated name e.message)
        pure 0
    let others ← loadEach service options now rest
    return synced + others

/-- Loads the playlists of these names and says how many were updated. -/
def loadAll (service : PlaylistService σ) (options : SelectionOptions) (now : Moment)
    (names : List String) : Job σ ε Unit := do
  let synced ← loadEach service options now names
  Job.tell (.updatedCount synced names.length)

end SmartPlaylist

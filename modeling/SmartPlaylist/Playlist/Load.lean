import SmartPlaylist.Playlist.Error
import SmartPlaylist.Playlist.Sync
import SmartPlaylist.Selection.Eligibility

/-!
# Loading a playlist

A run for one playlist: find the eligible candidates, select, report picks that
should have rested, and sync.  Such picks stay: they came as recommendations.

## Main definitions

* `loadPlaylist` — the run.
-/

namespace SmartPlaylist

variable {σ : Type}

/-- Selects tracks for a stored root playlist and syncs the remote playlist of its name. -/
def loadPlaylist (service : PlaylistService σ) (name : String) (options : SelectionOptions)
    (now : Moment) : Job σ RunError SyncOutcome := do
  let eligible ← (Job.store (Store.eligibleTracks name now)).failAs .store
  Job.tell (.eligibleCount name eligible.length)
  let selection ← (select service name eligible options).failAs .selection
  if selection.isShort options.targetSize then
    Job.tell (.shortSelection name selection.tracks.length options.targetSize)
  let violations ← (Job.store (Store.rotationViolations name selection.tracks now)).failAs .store
  violations.forM fun id => Job.tell (.recentlyPlayed id name)
  (syncPlaylist service name selection.tracks).failAs .remote

end SmartPlaylist

import SmartPlaylist.Store.Action
import SmartPlaylist.Text.Sorted

/-!
# Stored root playlists

The *root playlist* of a name is the set of all tracks that may go into the
playlist of that name.  Each has a flag that says whether it rests after a play.

## Main definitions

* `RootTrack`, `RootPlaylist` — the set.
* `Store.storeRoot`, `Store.loadRoot` — writing and reading it.
* `Store.rootNames`, `Store.pruneRoots` — the names, and dropping those not wanted.
-/

namespace SmartPlaylist

/-- A candidate track. -/
structure RootTrack where
  trackId : String
  /-- Whether the track rests after a play; a track that does not is *pinned*. -/
  rotate : Bool
  deriving DecidableEq, Repr, Inhabited

/-- The candidate tracks of a playlist, in the order of their ids. -/
structure RootPlaylist where
  name : String
  tracks : List RootTrack
  deriving DecidableEq, Repr, Inhabited

/-- How many candidates are pinned. -/
def RootPlaylist.pinned (r : RootPlaylist) : Nat := (r.tracks.filter fun t => !t.rotate).length

namespace Store

/-- Replaces the stored set of a name, all at once. -/
def storeRoot (root : RootPlaylist) : Action Unit :=
  transaction do
    deleteWhere .rootPlaylists fun r => r.name = root.name
    root.tracks.forM fun t =>
      insertUnique .rootPlaylists (fun r => (r.name, r.trackId)) ⟨root.name, t.trackId, t.rotate⟩

/-- The stored set of a name; empty if there is none. -/
def loadRoot (name : String) : Action RootPlaylist := do
  let all ← rows .rootPlaylists
  let own := (all.filter fun r => r.name = name).map fun r => RootTrack.mk r.trackId r.rotate
  return ⟨name, own.mergeSort fun a b => decide (a.trackId ≤ b.trackId)⟩

/-- The names of the stored sets, in order. -/
def rootNames : Action (List String) := do
  let all ← rows .rootPlaylists
  return Text.distinct (all.map RootRow.name)

/-- Drops the sets whose names are not among those to keep, all at once, and gives their names.
With nothing to keep, nothing is dropped. -/
def pruneRoots (keep : List String) : Action (List String) :=
  if keep.isEmpty then return []
  else do
    let names ← rootNames
    let stale := names.filter fun name => !keep.contains name
    transaction do
      stale.forM fun name => deleteWhere .rootPlaylists fun r => r.name = name
    return stale

end Store

end SmartPlaylist

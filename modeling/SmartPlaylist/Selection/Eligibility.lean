import SmartPlaylist.Store.History
import SmartPlaylist.Store.RootPlaylists

/-!
# Eligible tracks

A candidate that rotates rests for two weeks after its last play.  A play exactly
two weeks old still rests it, and so does one in the future.

## Main definitions

* `rotationWindow` — the two weeks.
* `isEligible` — whether a candidate may be picked.
* `Store.eligibleTracks` — the candidates of a playlist that may be picked.
* `Store.rotationViolations` — the picks that should have rested.
-/

namespace SmartPlaylist

/-- How many days a track rests after a play. -/
def rotationWindowDays : Int := 14

/-- The same in nanoseconds. -/
def rotationWindow : Int := rotationWindowDays * 86400 * Moment.nanosPerSecond

/-- Whether a candidate may be picked at `now`, given its last play. -/
def isEligible (rotate : Bool) (lastPlayed : Option Moment) (now : Moment) : Bool :=
  !rotate ||
    match lastPlayed with
    | some played => rotationWindow < now.since played
    | none => true

namespace Store

/-- The candidates of a playlist that may be picked at `now`. -/
def eligibleTracks (name : String) (now : Moment) : Action (List RootTrack) := do
  let root ← loadRoot name
  let history ← lastPlayed
  return root.tracks.filter fun t => isEligible t.rotate (history.lookup t.trackId) now

/-- Whether a track rotates in a root playlist; one that is not in it does. -/
def rotatesIn (root : RootPlaylist) (trackId : String) : Bool :=
  match root.tracks.find? fun t => t.trackId = trackId with
  | some t => t.rotate
  | none => true

/-- The tracks of a selection that rotate and were played within the window, in its order. -/
def rotationViolations (name : String) (selection : List String) (now : Moment) :
    Action (List String) := do
  let root ← loadRoot name
  let history ← lastPlayed
  return selection.filter fun id => !isEligible (rotatesIn root id) (history.lookup id) now

end Store

end SmartPlaylist

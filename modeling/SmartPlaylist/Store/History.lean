import SmartPlaylist.Store.Action
import SmartPlaylist.Text.Sorted
import SmartPlaylist.Time.StoredText

/-!
# The play history

A log of plays to which only later plays are added: a play no later than the
latest one stored before is skipped, so that reading the same page of the
service's history twice adds nothing.

## Main definitions

* `Play` — a play of a track.
* `Store.appendPlays` — adds the new ones of some plays.
* `Store.latestPlayedAt`, `Store.lastPlayed` — the latest play of all, and of each
  track.
-/

namespace SmartPlaylist

/-- A play of a track. -/
structure Play where
  trackId : String
  playedAt : Moment
  deriving DecidableEq, Repr

namespace Store

/-- The moment of a stored time. -/
def readTime (text : String) : Action Moment :=
  match Moment.ofStoredText? text with
  | some m => return m
  | none => throw (.unreadableTime text)

/-- The latest stored play, which is the one whose text is greatest. -/
def latestPlayedAt : Action (Option Moment) := do
  let plays ← rows .playHistory
  match Text.greatest? (plays.map PlayRow.playedAt) with
  | some text => return some (← readTime text)
  | none => return none

/-- Whether a play is later than the newest one stored. -/
def isNew (newest : Option Moment) (play : Play) : Bool :=
  match newest with
  | some m => !(decide (play.playedAt ≤ m))
  | none => true

/-- Adds the plays that are later than every stored one; gives their number. -/
def appendPlays (plays : List Play) : Action Nat := do
  let newest ← latestPlayedAt
  let fresh := plays.filter (isNew newest)
  transaction do
    prepare .playHistory
    fresh.forM fun play => insert .playHistory ⟨play.trackId, play.playedAt.storedText⟩
    return fresh.length

/-- The latest play of each track that was played, by track. -/
def lastPlayed : Action (List (String × Moment)) := do
  let plays ← rows .playHistory
  (Text.distinct (plays.map PlayRow.trackId)).filterMapM fun id => do
    let own := plays.filter fun r => r.trackId = id
    match Text.greatest? (own.map PlayRow.playedAt) with
    | some text => return some (id, ← readTime text)
    | none => return none

end Store

end SmartPlaylist

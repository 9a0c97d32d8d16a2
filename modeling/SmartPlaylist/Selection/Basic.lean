import SmartPlaylist.Selection.Options
import SmartPlaylist.Session.Job
import SmartPlaylist.Store.RootPlaylists

/-!
# Selections

A selection starts with a random part of the eligible candidates.  The service is
then asked for recommendations that go with some of what is there, until the list
is full or the service has nothing more to offer.  The result is shuffled, so
that recommendations stand anywhere in it.

Every request either ends the selection or adds at least one track to it, so the
number of places still empty bounds the number of requests.

## Main definitions

* `Selection` — the tracks, and where they came from.
* `SelectionError` — why there is none.
* `select` — makes a selection.
-/

namespace SmartPlaylist

/-- The tracks for a playlist. -/
structure Selection where
  /-- In the order in which they go out. -/
  tracks : List String
  /-- How many of them are candidates of the playlist. -/
  fromRoot : Nat
  /-- How many of them were recommended. -/
  recommended : Nat
  /-- How often recommendations were asked for. -/
  recommendationCalls : Nat
  deriving DecidableEq, Repr, Inhabited

/-- Whether a selection has fewer tracks than wanted. -/
def Selection.isShort (s : Selection) (targetSize : Nat) : Bool := s.tracks.length < targetSize

/-- Why there is no selection. -/
inductive SelectionError where
  /-- No candidate is eligible, so there is nothing to start from. -/
  | noSeedTracks (playlist : String)
  /-- The options leave no room for a candidate. -/
  | invalidTarget (targetSize backfillCount : Nat)
  | remote (e : RemoteError)
  deriving DecidableEq, Repr, Inhabited

/-- What is printed about a missing selection. -/
def SelectionError.message : SelectionError → String
  | .noSeedTracks playlist =>
    "cannot seed recommendations with zero tracks for playlist `" ++ playlist ++ "`"
  | .invalidTarget targetSize backfillCount =>
    "target size " ++ Decimal.digitText targetSize ++ " must exceed backfill count " ++
      Decimal.digitText backfillCount
  | .remote e => e.message

namespace Selection

variable {σ : Type}

/-- Asks once for recommendations that go with some of the tracks, for the places still empty. -/
def request (service : PlaylistService σ) (options : SelectionOptions) (tracks : List String) :
    Job σ RemoteError (List String) := do
  let seeds ← Job.sample (min options.maxSeedTracks tracks.length) tracks
  let shortfall := options.targetSize - tracks.length
  Job.call (service.recommendations seeds (min shortfall options.maxRecommendationsPerCall))

/-- An answer that offers something leaves fewer places empty. -/
theorem shortfall_append_lt {target : Nat} {tracks ids : List String}
    (hroom : tracks.length < target) (hids : ¬ids.isEmpty) :
    target - (tracks ++ ids.take (target - tracks.length)).length < target - tracks.length := by
  have hpos : 0 < ids.length := by
    rw [List.length_pos_iff, Ne, ← List.isEmpty_iff]
    exact hids
  rw [List.length_append, List.length_take]
  omega

/-- Asks for recommendations until the list is full or nothing is recommended; gives the list and
the number of requests. -/
def backfill (service : PlaylistService σ) (name : String) (options : SelectionOptions)
    (tracks : List String) (calls : Nat) : Job σ SelectionError (List String × Nat) := do
  if _ : tracks.length < options.targetSize then
    if tracks.isEmpty then throw (.noSeedTracks name)
    else
      let recommended ← (request service options tracks).failAs .remote
      if _ : recommended.isEmpty then
        Job.tell (.noRecommendations name tracks.length options.targetSize)
        return (tracks, calls + 1)
      else
        let shortfall := options.targetSize - tracks.length
        backfill service name options (tracks ++ recommended.take shortfall) (calls + 1)
  else return (tracks, calls)
termination_by options.targetSize - tracks.length
decreasing_by exact shortfall_append_lt ‹_› ‹_›

end Selection

variable {σ : Type}

/-- Makes a selection of the given size out of eligible candidates. -/
def select (service : PlaylistService σ) (name : String) (eligible : List RootTrack)
    (options : SelectionOptions) : Job σ SelectionError Selection := do
  if options.targetSize ≤ options.backfillCount then
    throw (.invalidTarget options.targetSize options.backfillCount)
  else
    let sampled ← Job.sample (min options.rootSampleSize eligible.length) eligible
    let picked := sampled.map RootTrack.trackId
    let (tracks, calls) ← Selection.backfill service name options picked 0
    let shuffled ← Job.shuffle tracks
    return ⟨shuffled, picked.length, tracks.length - picked.length, calls⟩

end SmartPlaylist

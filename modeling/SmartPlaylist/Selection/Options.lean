import SmartPlaylist.Settings.Basic

/-!
# Options of a selection

## Main definitions

* `SelectionOptions` — how large a selection is, and how it is filled up.
* `SelectionOptions.rootSampleSize` — how much of it comes from the candidates.
-/

namespace SmartPlaylist

/-- How a selection is made. -/
structure SelectionOptions where
  /-- How many tracks are wanted. -/
  targetSize : Nat := Settings.defaultTargetSize
  /-- How many places are kept for recommendations. -/
  backfillCount : Nat := Settings.defaultBackfill
  /-- How many tracks a request for recommendations may start from. -/
  maxSeedTracks : Nat := 5
  /-- How many tracks a request for recommendations may ask for. -/
  maxRecommendationsPerCall : Nat := 20
  deriving DecidableEq, Repr, Inhabited

namespace SelectionOptions

/-- The usual options with another size. -/
def ofTargetSize (n : Nat) : SelectionOptions := { targetSize := n }

/-- How many candidates are drawn before recommendations fill up the rest. -/
def rootSampleSize (o : SelectionOptions) : Nat := o.targetSize - o.backfillCount

end SelectionOptions

end SmartPlaylist

/-!
# Limits of the service

How much the service takes or gives at once, and how a list is cut to fit.

## Main definitions

* `batches` — a list cut into parts of a given size.
* `playlistPageSize`, `artistBatchSize`, … — the sizes.
-/

namespace SmartPlaylist

/-- How many playlists a page of the listing holds at most. -/
def playlistPageSize : Nat := 50

/-- How many saved tracks a page holds at most. -/
def savedTrackPageSize : Nat := 50

/-- How many plays are given at once. -/
def recentPlaysLimit : Nat := 50

/-- How many artists are asked for at once. -/
def artistBatchSize : Nat := 50

/-- How many tracks' features are asked for at once. -/
def featureBatchSize : Nat := 100

/-- How many tracks are put into a playlist at once. -/
def playlistBatchSize : Nat := 100

/-- How far a listing can be counted. -/
def listingLimit : Nat := 0x1_0000_0000

/-- A list cut into parts of `size` items, the last perhaps shorter.  `fuel` is at least the
number of parts. -/
def batchesFrom {α : Type} (size : Nat) : Nat → List α → List (List α)
  | 0, _ => []
  | fuel + 1, xs =>
    if xs.isEmpty then [] else xs.take size :: batchesFrom size fuel (xs.drop size)

/-- A list cut into parts of `size` items, the last perhaps shorter. -/
def batches {α : Type} (size : Nat) (xs : List α) : List (List α) := batchesFrom size xs.length xs

end SmartPlaylist

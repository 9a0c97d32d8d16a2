import SmartPlaylist.Filter.Predicate
import SmartPlaylist.Store.Cell
import SmartPlaylist.Store.Database

/-!
# Joined library rows

A predicate speaks about one saved track together with one of its artists, one
genre of that artist and the track's features.  Whatever is not stored is absent
from the row, and an absent value satisfies no condition.

## Main definitions

* `JoinedRow` — a row, `JoinedRow.cell?` its columns.
* `Predicate.holds` — whether a row satisfies a predicate.
* `joinedRows` — the rows of a library.
-/

namespace SmartPlaylist

/-! ### Rows -/

/-- A saved track with one artist, one genre of that artist and the track's features, as far as
they are stored. -/
structure JoinedRow where
  trackId : String
  artistName : Option String
  genre : Option String
  features : Option (FeatureVector (Option Float) (Option Int64))

/-- The value in a column. -/
def JoinedRow.cell? (r : JoinedRow) : Column → Option Cell
  | .artistName => r.artistName.map Cell.text
  | .genre => r.genre.map Cell.text
  | .feature f => do
    let values ← r.features
    match values.get f with
    | .inl x => x.map Cell.real
    | .inr n => n.map Cell.whole

namespace Predicate

/-- Whether a value lies within the bounds that there are. -/
def within (min max : Option Float) (c : Cell) : Bool := min.all c.atLeast && max.all c.atMost

mutual

/-- Whether a row satisfies a predicate: a range needs a value within its bounds, a membership a
value of its list, and a conjunction all of its children. -/
def holds (r : JoinedRow) : Predicate → Bool
  | range column min max =>
    (min.isNone && max.isNone) || (r.cell? column).any (within min max)
  | membership column values => (r.cell? column).any fun c => values.any fun v => c = .text v
  | all children => allHold r children

/-- Whether a row satisfies all of the predicates. -/
def allHold (r : JoinedRow) : List Predicate → Bool
  | [] => true
  | p :: rest => holds r p && allHold r rest

end

end Predicate

/-! ### The join -/

/-- The rows that satisfy a condition, or one absent row if there are none. -/
def matchesOrAbsent {ρ : Type} (rows : List ρ) (p : ρ → Bool) : List (Option ρ) :=
  match rows.filter p with
  | [] => [none]
  | found => found.map some

/-- The rows of one saved track. -/
def joinTrack (links : List TrackArtistRow) (artists : List ArtistRow)
    (genres : List ArtistGenreRow) (features : List FeatureRow) (track : LibraryTrackRow) :
    List JoinedRow :=
  (matchesOrAbsent links fun l => l.trackId = track.trackId).flatMap fun link =>
    (matchesOrAbsent artists fun a => link.any fun l => a.id = l.artistId).flatMap fun artist =>
      (matchesOrAbsent genres fun g =>
          link.any fun l => g.artistId = l.artistId).flatMap fun genre =>
        (matchesOrAbsent features fun f => f.trackId = track.trackId).map fun values =>
          ⟨track.trackId, artist.map ArtistRow.name, genre.map ArtistGenreRow.genre,
            values.map FeatureRow.values⟩

/-- The rows of a library: every saved track with every choice of artist and genre. -/
def joinedRows (tracks : List LibraryTrackRow) (links : List TrackArtistRow)
    (artists : List ArtistRow) (genres : List ArtistGenreRow) (features : List FeatureRow) :
    List JoinedRow :=
  tracks.flatMap (joinTrack links artists genres features)

end SmartPlaylist

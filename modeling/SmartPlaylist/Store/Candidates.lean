import SmartPlaylist.Filter.JoinedRow
import SmartPlaylist.Store.Action
import SmartPlaylist.Text.Sorted

/-!
# Candidate tracks in the stored library

The saved tracks that a definition's filters let through, and those that a pin
names.

## Main definitions

* `Store.filterMatches` — the tracks that pass the filters.
* `Store.resolvePin` — the tracks that a pin names.
-/

namespace SmartPlaylist.Store

/-- The saved tracks with a joined row that satisfies the definition's filters, in order.  A
definition without filters lets no track through. -/
def filterMatches (d : Definition) : Action (List String) :=
  if d.hasFilters then do
    let tracks ← rows .libraryTracks
    let links ← rows .trackArtists
    let artists ← rows .artists
    let genres ← rows .artistGenres
    let features ← rows .audioFeatures
    let joined := joinedRows tracks links artists genres features
    return Text.distinct
      ((joined.filter fun r => (Predicate.ofDefinition d).holds r).map JoinedRow.trackId)
  else return []

/-- The saved tracks of the pin's name, in order; with an artist, only those of an artist of that
name. -/
def resolvePin (name : String) (artist : Option String) : Action (List String) := do
  match artist with
  | some artistName => do
    let tracks ← rows .libraryTracks
    let links ← rows .trackArtists
    let artists ← rows .artists
    let byArtist := fun (t : LibraryTrackRow) => links.any fun l =>
      l.trackId = t.trackId && artists.any fun a => a.id = l.artistId && a.name = artistName
    return Text.distinct
      ((tracks.filter fun t => t.name = name && byArtist t).map LibraryTrackRow.trackId)
  | none => do
    let tracks ← rows .libraryTracks
    return Text.sorted ((tracks.filter fun t => t.name = name).map LibraryTrackRow.trackId)

end SmartPlaylist.Store

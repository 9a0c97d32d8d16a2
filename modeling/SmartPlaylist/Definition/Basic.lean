import SmartPlaylist.Decimal.Shortest
import SmartPlaylist.Definition.Feature

/-!
# Playlist definitions

A definition names a playlist and says which library tracks belong to it: by
ranges of audio features, by artist, by genre, and by name (*pins*).

## Main definitions

* `FeatureRange` — inclusive bounds, either side of which may be open.
* `Pin` — a track named in a definition.
* `Definition` — the whole, with `Definition.hasFilters`.
* `DefinitionError` — why a definition is refused, with its message.
-/

namespace SmartPlaylist

/-- Inclusive bounds on a feature; a missing side is open. -/
structure FeatureRange where
  min : Option Float
  max : Option Float
  deriving DecidableEq, Inhabited

/-- Whether a range bounds nothing. -/
def FeatureRange.isUnbounded (r : FeatureRange) : Bool := r.min.isNone && r.max.isNone

/-- A track that a definition asks for by name. -/
structure Pin where
  name : String
  /-- Narrows the match where several tracks bear the name. -/
  artist : Option String
  /-- Whether the track rests after a play as the others do. -/
  rotate : Bool
  deriving DecidableEq, Repr, Inhabited

/-- What a playlist is made of. -/
structure Definition where
  /-- The name of the playlist, here and at the remote service. -/
  name : String
  /-- The ranges in the order of `Feature.all`, each feature once; `none` where the section is
  missing altogether. -/
  features : Option (List (Feature × FeatureRange))
  genres : List String
  artists : List String
  pins : List Pin
  deriving DecidableEq, Inhabited

/-- Whether the definition filters the library at all. -/
def Definition.hasFilters (d : Definition) : Bool :=
  !d.genres.isEmpty || !d.artists.isEmpty ||
    match d.features with
    | some ranges => ranges.any fun (_, r) => !r.isUnbounded
    | none => false

/-- Why a definition is refused. -/
inductive DefinitionError where
  /-- There is no name, or it is empty. -/
  | missingName
  /-- A pin has no name, or an empty one. -/
  | missingTrackName (playlist : String) (index : Nat)
  /-- A range is given for something that is no feature. -/
  | unknownFeature (key : String)
  /-- A range ends before it starts. -/
  | invalidRange (feature : String) (min max : Float)
  /-- A field has the wrong shape. -/
  | malformed
  /-- The text is not of the format that the path tells. -/
  | unparsable (path : String)
  /-- The file or directory cannot be read. -/
  | unreadable (path : String)
  deriving DecidableEq, Inhabited

/-- What is printed about a refused definition. -/
def DefinitionError.message : DefinitionError → String
  | .missingName => "playlist definition is missing the required `name` field"
  | .missingTrackName playlist index =>
    "additional track #" ++ Decimal.digitText index ++ " in playlist `" ++ playlist ++
      "` is missing `name`"
  | .unknownFeature key => "unknown audio feature `" ++ key ++ "`"
  | .invalidRange feature min max =>
    "audio feature `" ++ feature ++ "` has min " ++ Decimal.positional min ++
      " greater than max " ++ Decimal.positional max
  | .malformed => "malformed playlist definition: a field has the wrong shape"
  | .unparsable path => "cannot parse " ++ path ++ ": the text is not well formed"
  | .unreadable path => "cannot read " ++ path ++ ": it is missing or not text"

end SmartPlaylist

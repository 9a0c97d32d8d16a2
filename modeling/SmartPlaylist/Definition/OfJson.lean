import SmartPlaylist.Definition.Basic
import SmartPlaylist.Json.Record

/-!
# Definitions from JSON values

Reading goes in two steps.  The first asks for the *shape*: a record of the five
fields, each of the right kind.  The second asks for the *content*: a name, known
features with ranges that do not end before they start, and named pins.  A value
of the wrong shape is malformed whatever else is wrong with it, and content is
checked in that order, features by key.

## Main definitions

* `Definition.Shape` — a definition whose content is unchecked.
* `Definition.Shape.ofJson?` — the first step.
* `Definition.Shape.check` — the second.
* `Definition.ofJson` — both.
-/

namespace SmartPlaylist.Definition

/-- A pin as written, its name unchecked. -/
structure PinShape where
  name : Option String
  artist : Option String
  rotate : Option Bool
  deriving DecidableEq, Repr

/-- A definition as written, its content unchecked. -/
structure Shape where
  name : Option String
  /-- Ranges by key, sorted by key, each key once. -/
  features : Option (List (String × FeatureRange))
  genres : List String
  artists : List String
  pins : List PinShape
  deriving DecidableEq

/-! ### Shape -/

/-- A range: a record of its two optional bounds. -/
def rangeShape? (v : Json) : Option FeatureRange :=
  match v.slots ["min", "max"] with
  | some [min, max] => do
    let min ← min.optional Json.double?
    let max ← max.optional Json.double?
    some ⟨min, max⟩
  | _ => none

/-- A pin: a record of three optional fields. -/
def pinShape? (v : Json) : Option PinShape :=
  match v.slots ["name", "artist", "rotate"] with
  | some [name, artist, rotate] => do
    let name ← name.optional Json.text?
    let artist ← artist.optional Json.text?
    let rotate ← rotate.optional Json.bool?
    some ⟨name, artist, rotate⟩
  | _ => none

/-- A definition: a record whose first two fields are optional and whose three lists may be left
out.  Of an object's repeated keys the last counts. -/
def Shape.ofJson? (v : Json) : Option Shape :=
  match v.collapse.slots ["name", "audio_features", "genres", "artists", "additional_tracks"] with
  | some [name, features, genres, artists, pins] => do
    let name ← name.optional Json.text?
    let features ← features.optional (Json.dictionary? rangeShape?)
    let genres ← genres.defaulted [] (Json.list? Json.text?)
    let artists ← artists.defaulted [] (Json.list? Json.text?)
    let pins ← pins.defaulted [] (Json.list? pinShape?)
    some ⟨name, features, genres, artists, pins⟩
  | _ => none

/-! ### Content -/

/-- A text that is there and not empty. -/
def nonempty? : Option String → Option String
  | some s => if s.isEmpty then none else some s
  | none => none

/-- A range under its key: the key must name a feature, and the range must not end before it
starts. -/
def checkRange (key : String) (r : FeatureRange) :
    Except DefinitionError (Feature × FeatureRange) :=
  match Feature.ofName? key with
  | none => .error (.unknownFeature key)
  | some f =>
    match r.min, r.max with
    | some min, some max =>
      if max < min then .error (.invalidRange key min max) else .ok (f, r)
    | _, _ => .ok (f, r)

/-- The ranges in the order of `Feature.all`. -/
def arrange (ranges : List (Feature × FeatureRange)) : List (Feature × FeatureRange) :=
  Feature.all.flatMap fun f => ranges.filter fun r => r.1 = f

/-- The pins from place `index` on; each must have a name. -/
def checkPins (playlist : String) : Nat → List PinShape → Except DefinitionError (List Pin)
  | _, [] => .ok []
  | index, p :: rest =>
    match nonempty? p.name with
    | none => .error (.missingTrackName playlist index)
    | some name => do
      let others ← checkPins playlist (index + 1) rest
      .ok (⟨name, p.artist, p.rotate.getD false⟩ :: others)

/-- The checked definition: the name first, then the features by key, then the pins. -/
def Shape.check (s : Shape) : Except DefinitionError Definition :=
  match nonempty? s.name with
  | none => .error .missingName
  | some name => do
    let features ← match s.features with
      | none => .ok none
      | some ranges => do
        let checked ← ranges.mapM fun (key, r) => checkRange key r
        .ok (some (arrange checked))
    let pins ← checkPins name 0 s.pins
    .ok ⟨name, features, s.genres, s.artists, pins⟩

end SmartPlaylist.Definition

namespace SmartPlaylist

/-- Reads a definition from a JSON value. -/
def Definition.ofJson (v : Json) : Except DefinitionError Definition :=
  match Definition.Shape.ofJson? v with
  | none => .error .malformed
  | some s => s.check

end SmartPlaylist

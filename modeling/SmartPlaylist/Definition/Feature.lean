/-!
# Audio features

The thirteen measurements that the remote service reports for a track.  Nine are
real numbers and four are whole: the duration, the key, the mode and the time
signature.

## Main definitions

* `Feature` — the measurements, `Feature.all` in their fixed order.
* `Feature.name`, `Feature.ofName?` — the key a definition uses.
* `FeatureVector` — one value per feature, real and whole ones of their own types.
-/

namespace SmartPlaylist

/-- A measurement of a track. -/
inductive Feature where
  | acousticness
  | danceability
  | durationMs
  | energy
  | instrumentalness
  | key
  | liveness
  | loudness
  | mode
  | speechiness
  | tempo
  | timeSignature
  | valence
  deriving DecidableEq, Repr, Inhabited

namespace Feature

/-- Every feature, in the order in which ranges are kept. -/
def all : List Feature :=
  [acousticness, danceability, durationMs, energy, instrumentalness, key, liveness, loudness,
    mode, speechiness, tempo, timeSignature, valence]

/-- The key of the feature in a definition, which also names its stored column. -/
def name : Feature → String
  | acousticness => "acousticness"
  | danceability => "danceability"
  | durationMs => "duration_ms"
  | energy => "energy"
  | instrumentalness => "instrumentalness"
  | key => "key"
  | liveness => "liveness"
  | loudness => "loudness"
  | mode => "mode"
  | speechiness => "speechiness"
  | tempo => "tempo"
  | timeSignature => "time_signature"
  | valence => "valence"

/-- The feature with that key, if there is one. -/
def ofName? (s : String) : Option Feature := all.find? (fun f => f.name = s)

/-- The place of the feature in `all`. -/
def index (f : Feature) : Nat := all.idxOf f

theorem mem_all (f : Feature) : f ∈ all := by cases f <;> decide

theorem name_injective {f g : Feature} (h : f.name = g.name) : f = g := by
  cases f <;> cases g <;> first | rfl | exact absurd h (by decide)

end Feature

/-- One value per feature: real ones of type `ρ`, whole ones of type `ι`. -/
structure FeatureVector (ρ ι : Type) where
  acousticness : ρ
  danceability : ρ
  durationMs : ι
  energy : ρ
  instrumentalness : ρ
  key : ι
  liveness : ρ
  loudness : ρ
  mode : ι
  speechiness : ρ
  tempo : ρ
  timeSignature : ι
  valence : ρ
  deriving DecidableEq, Repr, Inhabited

namespace FeatureVector

variable {ρ ι ρ' ι' : Type}

/-- The value of a feature. -/
def get (v : FeatureVector ρ ι) : Feature → ρ ⊕ ι
  | .acousticness => .inl v.acousticness
  | .danceability => .inl v.danceability
  | .durationMs => .inr v.durationMs
  | .energy => .inl v.energy
  | .instrumentalness => .inl v.instrumentalness
  | .key => .inr v.key
  | .liveness => .inl v.liveness
  | .loudness => .inl v.loudness
  | .mode => .inr v.mode
  | .speechiness => .inl v.speechiness
  | .tempo => .inl v.tempo
  | .timeSignature => .inr v.timeSignature
  | .valence => .inl v.valence

/-- Changes every real value with `f` and every whole one with `g`. -/
def map (f : ρ → ρ') (g : ι → ι') (v : FeatureVector ρ ι) : FeatureVector ρ' ι' where
  acousticness := f v.acousticness
  danceability := f v.danceability
  durationMs := g v.durationMs
  energy := f v.energy
  instrumentalness := f v.instrumentalness
  key := g v.key
  liveness := f v.liveness
  loudness := f v.loudness
  mode := g v.mode
  speechiness := f v.speechiness
  tempo := f v.tempo
  timeSignature := g v.timeSignature
  valence := f v.valence

/-- The values in the order of `Feature.all`. -/
def toList (v : FeatureVector ρ ι) : List (ρ ⊕ ι) := Feature.all.map v.get

theorem get_map (f : ρ → ρ') (g : ι → ι') (v : FeatureVector ρ ι) (x : Feature) :
    (v.map f g).get x = (v.get x).map f g := by cases x <;> rfl

end FeatureVector

end SmartPlaylist

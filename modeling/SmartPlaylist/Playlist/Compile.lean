import SmartPlaylist.Playlist.Error
import SmartPlaylist.Store.Candidates
import SmartPlaylist.Store.RootPlaylists

/-!
# Compiling a definition

A definition and the stored library give a root playlist: the tracks that pass the
filters, which rotate, and the tracks that its pins name, with the flag of the
last pin that names them.  A pin *resolves* when it names some track, and only one
unless it gives an artist.

## Main definitions

* `Compile.Candidates` — tracks with their flags, by id.
* `Compile.resolution` — what a pin names, or why it does not resolve.
* `compile` — a definition's root playlist, which is also stored.
-/

namespace SmartPlaylist

namespace Compile

/-- Tracks with their flags, sorted by id, each once. -/
abbrev Candidates := List (String × Bool)

/-- Sets the flag of a track. -/
def assign (trackId : String) (rotate : Bool) : Candidates → Candidates
  | [] => [(trackId, rotate)]
  | (id, flag) :: rest =>
    if trackId < id then (trackId, rotate) :: (id, flag) :: rest
    else if trackId = id then (trackId, rotate) :: rest
    else (id, flag) :: assign trackId rotate rest

/-- Sets the flag of several tracks. -/
def assignAll (trackIds : List String) (rotate : Bool) (c : Candidates) : Candidates :=
  trackIds.foldl (fun c id => assign id rotate c) c

/-- The tracks that a pin resolves to, out of those that it names. -/
def resolution (pin : Pin) (named : List String) : Except PinProblem (List String) :=
  match named, pin.artist with
  | [], _ => .error .notFound
  | [id], _ => .ok [id]
  | ids, some _ => .ok ids
  | _, none => .error .ambiguous

variable {σ : Type}

/-- Adds what the pins name, in order.  A pin that does not resolve is skipped with a warning, or
ends the run. -/
def addPins (playlist : String) (policy : UnresolvedPolicy) :
    List Pin → Candidates → Job σ CompileError Candidates
  | [], c => return c
  | pin :: rest, c => do
    let named ← (Job.store (Store.resolvePin pin.name pin.artist)).failAs .store
    match resolution pin named with
    | .ok ids => addPins playlist policy rest (assignAll ids pin.rotate c)
    | .error problem =>
      match policy with
      | .skip => do
        Job.tell (.pinSkipped pin.name playlist problem)
        addPins playlist policy rest c
      | .fail => throw (.unresolvedTrack playlist pin.name)

/-- The root playlist of a definition, which is not stored yet. -/
def candidates (d : Definition) (policy : UnresolvedPolicy) : Job σ CompileError RootPlaylist := do
  let found ← (Job.store (Store.filterMatches d)).failAs .store
  let all ← addPins d.name policy d.pins (assignAll found true [])
  return ⟨d.name, all.map fun (id, rotate) => ⟨id, rotate⟩⟩

end Compile

variable {σ : Type}

/-- The root playlist of a definition; it takes the place of the one stored under that name. -/
def compile (d : Definition) (policy : UnresolvedPolicy) : Job σ CompileError RootPlaylist := do
  let root ← Compile.candidates d policy
  (Job.store (Store.storeRoot root)).failAs .store
  return root

end SmartPlaylist

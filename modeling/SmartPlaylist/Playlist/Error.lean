import SmartPlaylist.Definition.Basic
import SmartPlaylist.Selection.Basic

/-!
# Failures of a whole run

## Main definitions

* `CompileError` — why a definition has no root playlist.
* `RunError` — why a playlist is not updated, or a pull fails.
-/

namespace SmartPlaylist

/-- Why a definition has no root playlist. -/
inductive CompileError where
  | store (e : StoreError)
  /-- A pin does not resolve, and is not to be skipped. -/
  | unresolvedTrack (playlist name : String)
  deriving DecidableEq, Repr, Inhabited

/-- What is printed about a definition without root playlist. -/
def CompileError.message : CompileError → String
  | .store e => e.message
  | .unresolvedTrack playlist name =>
    "pinned track `" ++ name ++ "` could not be resolved in the library for playlist `" ++
      playlist ++ "`"

/-- Why a run fails. -/
inductive RunError where
  | store (e : StoreError)
  | selection (e : SelectionError)
  | remote (e : RemoteError)
  deriving DecidableEq, Repr, Inhabited

/-- What is printed about a failed run. -/
def RunError.message : RunError → String
  | .store e => e.message
  | .selection e => e.message
  | .remote e => e.message

end SmartPlaylist

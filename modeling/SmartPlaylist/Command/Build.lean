import SmartPlaylist.Definition.Folder
import SmartPlaylist.Playlist.Compile

/-!
# Building all root playlists

Every definition of a folder is compiled, one after another; a broken or failing
one is reported and keeps what is stored under its name.  Stored sets without a
definition are dropped, but only when every file could be read, because a broken
file may hold the definition of any of them.

## Main definitions

* `Build.Tally` — what has come of the definitions so far.
* `build` — the run over the definitions of a folder.
-/

namespace SmartPlaylist

variable {σ ε : Type}

namespace Build

/-- What has come of the definitions so far. -/
structure Tally where
  /-- The names of the definitions that could be read. -/
  names : List String
  /-- How many files could not be read. -/
  unreadable : Nat
  /-- How many definitions were compiled. -/
  compiled : Nat
  deriving DecidableEq, Repr, Inhabited

/-- Nothing yet. -/
def Tally.start : Tally := ⟨[], 0, 0⟩

/-- Compiles one definition and says what came of it; gives whether it was compiled. -/
def compileOne (policy : UnresolvedPolicy) (d : Definition) : Job σ ε Bool := do
  match ← (compile d policy).attempt with
  | .ok root =>
    Job.tell (.rootCompiled root.name root.tracks.length root.pinned)
    return true
  | .error e =>
    Job.tell (.notCompiled d.name e.message)
    return false

/-- Compiles the definitions of a folder in order; each comes with its path, and with what is wrong
with it if it could not be read. -/
def compileAll (policy : UnresolvedPolicy) :
    List (String × Except DefinitionError Definition) → Tally → Job σ ε Tally
  | [], tally => return tally
  | (path, .error e) :: rest, tally => do
    Job.tell (.definitionSkipped path e.message)
    compileAll policy rest { tally with unreadable := tally.unreadable + 1 }
  | (_, .ok d) :: rest, tally => do
    let done ← compileOne policy d
    compileAll policy rest
      { tally with
        names := tally.names ++ [d.name]
        compiled := if done then tally.compiled + 1 else tally.compiled }

/-- Drops the stored sets without a definition and says which. -/
def prune (names : List String) : Job σ ε Unit := do
  match ← (Job.store (Store.pruneRoots names)).attempt with
  | .ok removed => removed.forM fun name => Job.tell (.rootRemoved name)
  | .error e => Job.tell (.notPruned e.message)

end Build

/-- Compiles the definitions of a folder and drops the stored sets that have none.  A folder without
definitions changes nothing. -/
def build (policy : UnresolvedPolicy) (directory : String)
    (definitions : List (String × Except DefinitionError Definition)) : Job σ ε Unit := do
  if definitions.isEmpty then
    Job.tell (.noDefinitions directory)
  else
    let tally ← Build.compileAll policy definitions .start
    if tally.unreadable = 0 then
      Build.prune tally.names
    Job.tell (.compiledCount tally.compiled)

end SmartPlaylist

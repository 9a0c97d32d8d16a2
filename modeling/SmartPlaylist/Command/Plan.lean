import SmartPlaylist.Command.Invocation
import SmartPlaylist.Settings.EnvFile

/-!
# Plans

What the program is going to do, from its environment, its files of variables and
its arguments.  The files come first, then the arguments, and the settings last
and only for a command that needs them, so a bad setting keeps nobody from help.

## Main definitions

* `Plan` — what the program does.
* `Plan.make` — the plan of a run.
* `Plan.allVariables` — the variables of the process that a plan depends on.

## Main results

* `Plan.make_wrong` — a line that cannot be understood ends the program with code 2.
-/

namespace SmartPlaylist

/-- What the program does. -/
inductive Plan where
  /-- Print lines, and end with a code. -/
  | say (lines : List String) (code : Nat)
  /-- Print a new key for the credential cache. -/
  | newKey
  | perform (command : Command) (settings : Settings)
  deriving DecidableEq, Repr, Inhabited

namespace Plan

/-- Ends the program with a notice. -/
def fail (notice : Notice) : Plan := .say [notice.line] 1

/-- What an invocation leads to, given the environment and the program's own directory. -/
def ofInvocation (env : Environment) (own : String) : Invocation → Plan
  | .help command => .say (CommandLine.help command) 0
  | .version => .say [CommandLine.version] 0
  | .wrong => .say [] 2
  | .run (.auth true) _ => .newKey
  | .run (.completions shell) _ => .say shell.completions 0
  | .run command overrides =>
    match Settings.ofEnvironment env own with
    | .ok settings => .perform command (overrides.apply settings)
    | .error e => fail (.invalidConfiguration e.message)

/-- The plan of a run, from the environment of the process, the program's own directory as the
variables name it in the end, the files of variables in the working directory and in the program's
own directory, and the arguments. -/
def make (env : Environment) (own : String) (workingFile ownFile : Option String)
    (args : List String) : Plan :=
  match EnvFile.loadBoth env workingFile ownFile with
  | (env, true) => ofInvocation env own (.parse args)
  | (_, false) => fail (.environmentNotLoaded "the file of variables cannot be read")

theorem make_wrong {env after : Environment} {own : String} {workingFile ownFile : Option String}
    {args : List String} (h : EnvFile.loadBoth env workingFile ownFile = (after, true))
    (hw : Invocation.parse args = .wrong) :
    make env own workingFile ownFile args = .say [] 2 := by
  simp [make, h, hw, ofInvocation]

/-! ### Variables -/

/-- The variables that settings and the program's own directory come from. -/
def baseVariables : List String :=
  ["HOME", "XDG_DATA_HOME", "SMARTLISTS_DATABASE", "SMARTLISTS_PLAYLISTS_DIR",
    Settings.targetSizeName, "SPOTIFY_CLIENT_ID", "SPOTIFY_CLIENT_SECRET", "SPOTIFY_REDIRECT_URI",
    "SPOTIFY_API_AUTH_SCOPE", "SERVER_ADDRESS", "SPOTIFY_API_URL", "SPOTIFY_API_AUTH_URL",
    "SPOTIFY_API_TOKEN_URL", "SPOTIFY_CACHE_KEY"]

/-- The variables that matter with these files: the files may name more of them. -/
def allVariables (workingFile ownFile : Option String) : List String :=
  baseVariables ++ (workingFile.toList ++ ownFile.toList).flatMap EnvFile.mentioned

end Plan

end SmartPlaylist

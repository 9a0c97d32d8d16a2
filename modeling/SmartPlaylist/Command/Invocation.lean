import SmartPlaylist.Command.Basic

/-!
# The command line

A line of arguments is read from left to right on two levels: what comes before
the name of a command, and what comes after it.  An option's value follows it, or
an equals sign; a value that stands by itself may not look like an option.  On
each level an option may be given once; the second level overrides the first.

The first argument that decides something ends the reading: one that asks for
help or for the version, or one that is wrong.  A value that stands by itself is
looked at only when the next option or word on its level comes, or at the end of
the level.

## Main definitions

* `Overrides` — the options, which go before the settings.
* `Invocation` — what a line of arguments asks for.
* `Invocation.readLevel` — reads one level.
* `Invocation.parse` — reads a line of arguments.
-/

namespace SmartPlaylist

/-- What the options say. -/
structure Overrides where
  database : Option String := none
  playlists : Option String := none
  targetSize : Option Nat := none
  unresolved : Option UnresolvedPolicy := none
  deriving DecidableEq, Repr, Inhabited

namespace Overrides

/-- The settings with what the options say. -/
def apply (o : Overrides) (s : Settings) : Settings :=
  { s with
    database := o.database.getD s.database
    playlistsDirectory := o.playlists.getD s.playlistsDirectory
    targetSize := o.targetSize.getD s.targetSize
    unresolved := o.unresolved.getD s.unresolved }

/-- What these options say, and where they say nothing, the others. -/
def orElse (o others : Overrides) : Overrides where
  database := o.database <|> others.database
  playlists := o.playlists <|> others.playlists
  targetSize := o.targetSize <|> others.targetSize
  unresolved := o.unresolved <|> others.unresolved

end Overrides

/-- What a line of arguments asks for. -/
inductive Invocation where
  | run (command : Command) (overrides : Overrides)
  /-- Help, on a command if one is named. -/
  | help (command : Option String)
  | version
  /-- The line cannot be understood. -/
  | wrong
  deriving DecidableEq, Repr, Inhabited

namespace Invocation

/-! ### Options -/

/-- The options that have a value. -/
inductive ValueOption where
  | database
  | playlists
  | targetSize
  | unresolved
  deriving DecidableEq, Repr

/-- The option of a name. -/
def valueOption? : String → Option ValueOption
  | "--database" => some .database
  | "--playlists" => some .playlists
  | "--target-size" => some .targetSize
  | "--unresolved" => some .unresolved
  | _ => none

/-- The policy of a name. -/
def policy? : String → Option UnresolvedPolicy
  | "skip" => some .skip
  | "fail" => some .fail
  | _ => none

/-- Takes the value of an option, unless it has one already; a path may not be empty. -/
def setValue (o : Overrides) (option : ValueOption) (value : String) : Option Overrides :=
  match option with
  | .database =>
    if o.database.isSome || value.isEmpty then none else some { o with database := some value }
  | .playlists =>
    if o.playlists.isSome || value.isEmpty then none else some { o with playlists := some value }
  | .targetSize =>
    match o.targetSize, Settings.parseTargetSize value with
    | none, .ok n => some { o with targetSize := some n }
    | _, _ => none
  | .unresolved =>
    match o.unresolved, policy? value with
    | none, some p => some { o with unresolved := some p }
    | _, _ => none

/-! ### Levels -/

/-- Where an argument stands. -/
inductive Level where
  /-- Before the name of a command. -/
  | before
  /-- After the name of this command. -/
  | after (command : String)
  deriving DecidableEq, Repr

namespace Level

/-- The command whose level it is. -/
def command? : Level → Option String
  | before => none
  | after name => some name

/-- Whether a word can stand there that is not the name of a command. -/
def takesWord (l : Level) : Bool := l = after "pull" || l = after "completions"

/-- Whether the version can be asked for. -/
def tellsVersion (l : Level) : Bool := l = before

/-- Whether a key can be asked for. -/
def makesKey (l : Level) : Bool := l = after "auth"

end Level

/-- What to pull, by name. -/
def target? : String → Option PullTarget
  | "library" => some .library
  | "history" => some .history
  | "artists" => some .artists
  | "features" => some .features
  | "all" => some .all
  | _ => none

/-- What has not been looked at yet. -/
inductive Pending where
  | nothing
  /-- An option whose value comes next. -/
  | awaiting (option : ValueOption)
  | value (option : ValueOption) (text : String)
  | word (text : String)
  deriving DecidableEq, Repr, Inhabited

/-- What has been read on a level. -/
structure Reading where
  overrides : Overrides := {}
  generateKey : Bool := false
  word : Option String := none
  pending : Pending := .nothing
  deriving DecidableEq, Repr, Inhabited

/-- Whether a command can use the word. -/
def fits (l : Level) (word : String) : Bool :=
  match l with
  | .after "pull" => (target? word).isSome
  | .after "completions" => (Shell.ofName? word).isSome
  | _ => false

/-- Looks at what is pending. -/
def settle (l : Level) (r : Reading) : Except Invocation Reading :=
  match r.pending with
  | .nothing => .ok r
  | .awaiting _ => .error .wrong
  | .value option text =>
    match setValue r.overrides option text with
    | some overrides => .ok { r with overrides, pending := .nothing }
    | none => .error .wrong
  | .word text =>
    if fits l text then .ok { r with word := some text, pending := .nothing } else .error .wrong

/-- Takes an argument that asks for something by itself. -/
def setFlag (l : Level) (name : String) (r : Reading) : Except Invocation Reading := do
  if name = "--help" || name = "-h" then
    let _ ← settle l r
    .error (.help l.command?)
  else if l.tellsVersion && (name = "--version" || name = "-V") then
    let _ ← settle l r
    .error .version
  else if l.makesKey && name = "--generate-key" then
    let r ← settle l r
    if r.generateKey then .error .wrong else .ok { r with generateKey := true }
  else .error .wrong

/-- Takes an argument that begins with two hyphens: an option, perhaps with an equals sign and a
value, or one that asks for something by itself. -/
def setLong (l : Level) (arg : String) (r : Reading) : Except Invocation Reading := do
  let name := String.ofList (arg.toList.takeWhile (· ≠ '='))
  match valueOption? name, arg.toList.dropWhile (· ≠ '=') with
  | none, [] => setFlag l name r
  | none, _ => .error .wrong
  | some option, _ :: value =>
    let r ← settle l r
    settle l { r with pending := .value option (String.ofList value) }
  | some option, [] =>
    let r ← settle l r
    .ok { r with pending := .awaiting option }

/-- Takes a word that is not the name of a command; a level has room for one. -/
def setWord (l : Level) (arg : String) (r : Reading) : Except Invocation Reading := do
  if !l.takesWord then .error .wrong
  else
    let r ← settle l r
    if r.word.isSome then .error .wrong else .ok { r with pending := .word arg }

/-- The commands by name. -/
def commandNames : List String := CommandLine.commands.map Prod.fst

/-- What asking for help with these words gives. -/
def helpOn : List String → Invocation
  | [] => .help none
  | [name] => if commandNames.contains name then .help (some name) else .wrong
  | _ => .wrong

/-- Reads a level up to its end or to the name of a command; then that name and the arguments after
it are given too.  After two hyphens only words follow. -/
def readLevel (l : Level) :
    List String → Reading → Except Invocation (Reading × Option (String × List String))
  | [], r => .ok (r, none)
  | arg :: rest, r => do
    let awaits := r.pending matches .awaiting _
    if !awaits && l = .before && commandNames.contains arg then
      if arg = "help" then .error (helpOn rest) else .ok (r, some (arg, rest))
    else if arg = "--" then
      return (← rest.foldlM (fun r word => setWord l word r) r, none)
    else if arg.startsWith "--" then
      readLevel l rest (← setLong l arg r)
    else if arg.startsWith "-" && arg ≠ "-" then
      let letter := String.ofList (arg.toList.take 2)
      readLevel l rest (← setFlag l letter r)
    else
      match r.pending with
      | .awaiting option => readLevel l rest { r with pending := .value option arg }
      | _ => readLevel l rest (← setWord l arg r)

/-! ### Commands -/

/-- The command of a name with what was read after it. -/
def command? (name : String) (r : Reading) : Option Command :=
  match name with
  | "auth" => some (.auth r.generateKey)
  | "pull" => some (.pull ((r.word.bind target?).getD .all))
  | "build" => some .build
  | "load" => some .load
  | "update" => some .update
  | "playlists" => some .playlists
  | "completions" => (r.word.bind Shell.ofName?).map .completions
  | _ => none

/-- Reads a line of arguments, or stops where one decides it. -/
def readLine (args : List String) : Except Invocation Invocation := do
  match ← readLevel .before args {} with
  | (_, none) => .error .wrong
  | (outer, some (name, rest)) =>
    let (inner, _) ← readLevel (.after name) rest {}
    let inner ← settle (.after name) inner
    let outer ← settle .before outer
    match command? name inner with
    | some command => .ok (.run command (inner.overrides.orElse outer.overrides))
    | none => .error .wrong

/-- What a line of arguments asks for. -/
def parse (args : List String) : Invocation :=
  match readLine args with
  | .ok invocation => invocation
  | .error invocation => invocation

end Invocation

end SmartPlaylist

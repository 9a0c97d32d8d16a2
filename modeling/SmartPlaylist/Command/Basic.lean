import SmartPlaylist.Authorization.Callback
import SmartPlaylist.Authorization.Pkce
import SmartPlaylist.Command.Build
import SmartPlaylist.Command.Completion
import SmartPlaylist.Command.LoadAll
import SmartPlaylist.Command.Overview
import SmartPlaylist.Library.Pull
import SmartPlaylist.WebApi.Client

/-!
# Commands

What the user asks for.  A command works on the database and the network; it ends
early, with the notice that says why, where it cannot go on at all.  Commands that
need the remote service set up the client first, with the token that the last
authorization left.

## Main definitions

* `PullTarget`, `Command` — the commands.
* `Command.connect`, `Command.withClient` — the client of a command.
* `Command.awaitToken`, `Command.keepToken` — the token that the user grants.
* `Command.runAuth`, `Command.runBuild`, `Command.runLoad`, `Command.runPull`,
  `Command.runUpdate`, `Command.showPlaylists` — what each does.
* `Command.perform` — what any does.
-/

namespace SmartPlaylist

/-- What is pulled. -/
inductive PullTarget where
  | library
  | history
  | artists
  | features
  /-- Everything, in this order. -/
  | all
  deriving DecidableEq, Repr, Inhabited

/-- What the user asks for. -/
inductive Command where
  /-- Ask for access, or only make a key for the credential cache. -/
  | auth (generateKey : Bool)
  | pull (target : PullTarget)
  | build
  | load
  /-- Pull, build and load. -/
  | update
  | playlists
  | completions (shell : Shell)
  deriving DecidableEq, Repr, Inhabited

namespace Command

variable {σ τ ε α : Type}

/-- Turns every failure of a job into a notice that ends the command. -/
def orEnd (notice : ε → Notice) (j : Job σ ε α) : Job σ Notice α := j.failAs notice

/-! ### The client -/

/-- The credentials of the application, without which nothing goes to the remote service. -/
def requireApplication (s : Settings) : Except Notice Unit :=
  match s.requireClientId, s.requireRedirectUri with
  | .ok _, .ok _ => .ok ()
  | .ok _, .error e => .error (.applicationNotConfigured e.message)
  | .error e, _ => .error (.applicationNotConfigured e.message)

/-- The key of the credential cache. -/
def cacheKey (s : Settings) : Except Notice CipherKey :=
  match s.requireCacheKey with
  | .error e => .error (.cacheKeyMissing e.message)
  | .ok text =>
    match CipherKey.parse text with
    | .ok key => .ok key
    | .error e => .error (.cacheNotOpened e.message)

/-- The client with the token from the credential cache. -/
def connect (net : Network τ) (s : Settings) (network : τ) (db : Database) :
    Except Notice (Client.Config τ × Client τ) := do
  requireApplication s
  let key ← cacheKey s
  match Client.cachedToken key db with
  | .ok token => .ok ({ net, settings := s, key }, { network, token, database := db })
  | .error e => .error (.tokenNotLoaded e.message)

/-- Runs a job with the client.  Of the database the client changes only the credentials. -/
def withClient (net : Network τ) (s : Settings)
    (job : Client.Config τ → Job (Client τ) Notice α) : Job τ Notice α :=
  ExceptT.mk fun session =>
    match connect net s session.remote session.database with
    | .error notice => (.error notice, session)
    | .ok (cfg, client) =>
      let (result, after) := (job cfg).outcome
        ⟨session.database, client, session.notices, session.entropy⟩
      let database := { after.database with credentials := after.remote.database.credentials }
      (result, ⟨database, after.remote.network, after.notices, after.entropy⟩)

/-! ### The commands -/

/-- The names of the stored root playlists; having none is worth a warning. -/
def storedNames : Job σ Notice (List String) := do
  let names ← orEnd (fun e => .rootsNotReadable e.message) (Job.store Store.rootNames)
  if names.isEmpty then
    Job.tell .noRootPlaylists
  return names

/-- Compiles the definitions in a folder, or says that the folder cannot be read. -/
def runBuild (s : Settings) (folder : Option (List FolderEntry)) : Job σ Notice Unit :=
  match folder with
  | some entries =>
    SmartPlaylist.build s.unresolved s.playlistsDirectory (Folder.load s.playlistsDirectory entries)
  | none =>
    let cause := DefinitionError.unreadable s.playlistsDirectory
    throw (.definitionsNotReadable s.playlistsDirectory cause.message)

/-- Loads every stored root playlist. -/
def runLoad (net : Network τ) (s : Settings) (now : Moment) : Job τ Notice Unit := do
  let names ← storedNames
  if !names.isEmpty then
    withClient net s fun cfg =>
      loadAll (Client.playlistService cfg) (.ofTargetSize s.targetSize) now names

/-- Pulls one kind of data, or all, and gives the notice of success. -/
def pullWith (service : LibraryService σ) : PullTarget → Job σ RunError Notice
  | .library => return .libraryPulled (← pullLibrary service)
  | .history => return .historyPulled (← pullHistory service)
  | .artists => return .artistsPulled (← pullArtists service)
  | .features => return .featuresPulled (← pullFeatures service)
  | .all => do
    let s ← pullAll service
    Job.tell (.pullSummary s.libraryTracks s.plays s.artists s.audioFeatures)
    return .pullComplete

/-- Pulls from the remote service. -/
def runPull (net : Network τ) (s : Settings) (target : PullTarget) : Job τ Notice Unit :=
  withClient net s fun cfg => do
    let done ← orEnd (fun e => .notPulled e.message) (pullWith (Client.libraryService cfg) target)
    Job.tell done

/-- Pulls everything, builds and loads. -/
def runUpdate (net : Network τ) (s : Settings) (folder : Option (List FolderEntry)) (now : Moment) :
    Job τ Notice Unit := do
  runPull net s .all
  runBuild s folder
  runLoad net s now

/-- The table of the stored root playlists, unless there are none. -/
def showPlaylists (now : Moment) : Job σ Notice (Option String) := do
  let names ← storedNames
  if names.isEmpty then return none
  else
    let rows ← overview now names
    return some (Overview.table rows)

/-- Answers the browser while the user grants access, if that is possible at the server's address, and
gives the token that came of it. -/
def awaitToken (net : Network τ) (s : Settings) (verifier : String)
    (visits : List (Callback.Visit τ)) : Job τ Notice (Option Token) :=
  ExceptT.mk fun session =>
    match Callback.checkAddress s.serverAddress with
    | .error cause =>
      (.ok none, { session with notices := session.notices ++ [.serverStopped cause] })
    | .ok () =>
      let after := Callback.await net s visits
        ⟨session.remote, some ⟨verifier, none⟩, session.notices⟩
      (.ok (after.grant.bind PendingGrant.token),
        { session with remote := after.network, notices := after.notices })

/-- Keeps a token in the credential cache. -/
def keepToken (net : Network τ) (key : CipherKey) (token : Token) : Job τ Notice Unit :=
  ExceptT.mk fun session =>
    let (nonce, remote) := net.nonce session.remote
    let (result, database) :=
      (Cache.set key nonce Client.credentialService token.toJson).run session.database
    let session := { session with remote, database }
    match result with
    | .ok () => (.ok (), { session with notices := session.notices ++ [.authenticated] })
    | .error e => (.error (.tokenNotSaved e.message), session)

/-- Says where access is granted, waits for the user to be sent back from there, and keeps the token.
`visits` are the requests of the browser that come in time. -/
def runAuth (net : Network τ) (s : Settings) (verifier : String)
    (visits : List (Callback.Visit τ)) : Job τ Notice Unit := do
  match requireApplication s, cacheKey s with
  | .error notice, _ | .ok _, .error notice => throw notice
  | .ok (), .ok key =>
    match Grant.authorizeUrl s (Pkce.challenge verifier) with
    | .error e => throw (.authenticationFailed e.message)
    | .ok url =>
      Job.tell (.browserNotOpened url.text)
      match ← awaitToken net s verifier visits with
      | some token => keepToken net key token
      | none => throw (.authenticationFailed RemoteError.notGranted.message)

/-- Does what a command asks for, on a database with every table, and gives the text to print at the
end, if there is any.  `folder` is the folder of the definitions, `verifier` a new secret, and `visits`
are requests of the browser. -/
def perform (net : Network τ) (s : Settings) (folder : Option (List FolderEntry)) (now : Moment)
    (verifier : String) (visits : List (Callback.Visit τ)) (command : Command) :
    Job τ Notice (Option String) := do
  orEnd (fun e => .databaseNotOpened s.database e.message) (Job.store Store.initSchema)
  let silent := fun (job : Job τ Notice Unit) => do job; return none
  match command with
  | .auth _ => silent (runAuth net s verifier visits)
  | .pull target => silent (runPull net s target)
  | .build => silent (runBuild s folder)
  | .load => silent (runLoad net s now)
  | .update => silent (runUpdate net s folder now)
  | .playlists => showPlaylists now
  | .completions shell => return some ("\n".intercalate shell.completions)

/-! ### Ending -/

/-- The session after a command, with the notice that ended it early if one did, and whether it
came to its end. -/
def finish (j : Job σ Notice α) (session : Session σ) : Option α × Session σ :=
  match j.outcome session with
  | (.ok x, after) => (some x, after)
  | (.error notice, after) => (none, { after with notices := after.notices ++ [notice] })

end Command

end SmartPlaylist

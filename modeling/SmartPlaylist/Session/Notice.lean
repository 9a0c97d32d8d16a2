import SmartPlaylist.Remote.Service

/-!
# Notices to the user

Everything that the program tells its user while it works, one line each except
where a second line says what to do.

## Main definitions

* `Notice` — what is told.
* `Notice.level`, `Notice.text` — how urgent it is, and its words.
* `Notice.line` — the printed line.
-/

namespace SmartPlaylist

/-- Why a pin was left out. -/
inductive PinProblem where
  /-- No saved track bears the name. -/
  | notFound
  /-- Several saved tracks bear the name, and the pin gives no artist. -/
  | ambiguous
  deriving DecidableEq, Repr, Inhabited

/-- What the user is told. -/
inductive Notice where
  | remote (n : RemoteNotice)
  | pinSkipped (pin playlist : String) (problem : PinProblem)
  | noRecommendations (playlist : String) (size target : Nat)
  | eligibleCount (playlist : String) (count : Nat)
  | shortSelection (playlist : String) (size target : Nat)
  | recentlyPlayed (trackId playlist : String)
  | creatingPlaylist (playlist : String)
  | replacingTracks (playlist : String) (count : Nat)
  | playlistSynced (playlist : String) (count : Nat)
  | playlistNotUpdated (playlist cause : String)
  | updatedCount (synced total : Nat)
  | noRootPlaylists
  | rootNotReadable (playlist cause : String)
  | rootsNotReadable (cause : String)
  | definitionsNotReadable (directory cause : String)
  | noDefinitions (directory : String)
  | definitionSkipped (path cause : String)
  | rootCompiled (playlist : String) (tracks pinned : Nat)
  | notCompiled (playlist cause : String)
  | rootRemoved (playlist : String)
  | notPruned (cause : String)
  | compiledCount (count : Nat)
  | savedTrackSkipped (trackId addedAt : String)
  | libraryPulled (count : Nat)
  | historyPulled (count : Nat)
  | artistsPulled (count : Nat)
  | featuresPulled (count : Nat)
  | pullSummary (tracks plays artists features : Nat)
  | pullComplete
  | notPulled (cause : String)
  | databaseNotOpened (path cause : String)
  | cacheKeyMissing (cause : String)
  | cacheNotOpened (cause : String)
  | applicationNotConfigured (cause : String)
  | tokenNotLoaded (cause : String)
  | authorizationDenied (reason : String)
  | exchangeFailed (cause : String)
  | authenticationFailed (cause : String)
  | tokenNotSaved (cause : String)
  | authenticated
  | serverStopped (cause : String)
  | browserNotOpened (url : String)
  | invalidConfiguration (cause : String)
  | environmentNotLoaded (cause : String)
  deriving DecidableEq, Repr, Inhabited

/-- How urgent a notice is. -/
inductive Level where
  | info
  | success
  | warning
  /-- The command ends here. -/
  | fatal
  deriving DecidableEq, Repr, Inhabited

namespace Notice

/-- How urgent a notice is. -/
def level : Notice → Level
  | creatingPlaylist _ | replacingTracks _ _ | eligibleCount _ _ | updatedCount _ _
  | rootCompiled _ _ _ | rootRemoved _ | pullSummary _ _ _ _ => .info
  | playlistSynced _ _ | compiledCount _ | libraryPulled _ | historyPulled _ | artistsPulled _
  | featuresPulled _ | pullComplete | authenticated => .success
  | rootsNotReadable _ | definitionsNotReadable _ _ | notPulled _ | databaseNotOpened _ _
  | cacheKeyMissing _ | cacheNotOpened _ | applicationNotConfigured _ | tokenNotLoaded _
  | authenticationFailed _ | tokenNotSaved _ | invalidConfiguration _
  | environmentNotLoaded _ => .fatal
  | remote _ | pinSkipped _ _ _ | noRecommendations _ _ _ | shortSelection _ _ _
  | recentlyPlayed _ _ | playlistNotUpdated _ _ | noRootPlaylists | rootNotReadable _ _
  | noDefinitions _ | definitionSkipped _ _ | notCompiled _ _ | notPruned _
  | savedTrackSkipped _ _ | authorizationDenied _ | exchangeFailed _ | serverStopped _
  | browserNotOpened _ => .warning

/-- A count as text. -/
def count (n : Nat) : String := Decimal.digitText n

/-- The words of a notice. -/
def text : Notice → String
  | remote (.longWait seconds) =>
    "Retry after has reached an abnormal high of " ++ count seconds ++ " seconds."
  | remote (.tokenNotSaved cause) => "Failed to save refreshed token: " ++ cause
  | pinSkipped pin playlist problem =>
    "Pinned track `" ++ pin ++ "` for playlist `" ++ playlist ++ "` " ++
      (match problem with
        | .notFound => "not found in library"
        | .ambiguous => "matches several library tracks, add `artist` to pick one") ++
      "; skipping."
  | noRecommendations playlist n target =>
    "No recommendations returned for playlist `" ++ playlist ++ "`; it will have " ++ count n ++
      " of " ++ count target ++ " tracks."
  | eligibleCount playlist n => "Playlist " ++ playlist ++ " has " ++ count n ++ " eligible tracks."
  | shortSelection playlist n target =>
    "Playlist " ++ playlist ++ " only has " ++ count n ++ " of " ++ count target ++ " tracks."
  | recentlyPlayed trackId playlist =>
    "Track " ++ trackId ++ " in " ++ playlist ++ " was played within the rotation window."
  | creatingPlaylist playlist => "Playlist " ++ playlist ++ " does not exist yet, creating it."
  | replacingTracks playlist n =>
    "Replacing tracks of " ++ playlist ++ " with " ++ count n ++ " tracks."
  | playlistSynced playlist n => "Synced " ++ count n ++ " tracks to " ++ playlist ++ "."
  | playlistNotUpdated playlist cause => "Playlist " ++ playlist ++ " was not updated: " ++ cause
  | updatedCount synced total =>
    "Updated " ++ count synced ++ " of " ++ count total ++ " playlists."
  | noRootPlaylists => "No root playlists stored. Run smartlists build first."
  | rootNotReadable playlist cause => "Cannot read root playlist " ++ playlist ++ ": " ++ cause
  | rootsNotReadable cause => "Cannot read root playlists: " ++ cause
  | definitionsNotReadable directory cause =>
    "Cannot read playlist definitions from " ++ directory ++ ": " ++ cause
  | noDefinitions directory =>
    "No playlist definitions (*.yaml, *.yml, *.toml, *.json) found in " ++ directory ++
      "; stored root playlists are kept."
  | definitionSkipped path cause => "Skipping " ++ path ++ ": " ++ cause
  | rootCompiled playlist tracks pinned =>
    "Root playlist " ++ playlist ++ " has " ++ count tracks ++ " tracks (" ++ count pinned ++
      " pinned)."
  | notCompiled playlist cause => "Cannot compile " ++ playlist ++ ": " ++ cause
  | rootRemoved playlist => "Removed root playlist " ++ playlist ++ " without a definition."
  | notPruned cause => "Cannot prune root playlists: " ++ cause
  | compiledCount n => "Compiled " ++ count n ++ " root playlists."
  | savedTrackSkipped trackId addedAt =>
    "Skipping saved track " ++ trackId ++ ": unreadable added_at " ++ addedAt
  | libraryPulled n => "Mirrored " ++ count n ++ " library tracks."
  | historyPulled n => "Stored " ++ count n ++ " new plays."
  | artistsPulled n => "Stored " ++ count n ++ " artists."
  | featuresPulled n => "Stored audio features for " ++ count n ++ " tracks."
  | pullSummary tracks plays artists features =>
    "Library: " ++ count tracks ++ ", plays: " ++ count plays ++ ", artists: " ++ count artists ++
      ", audio features: " ++ count features
  | pullComplete => "Mirror is up to date."
  | notPulled cause => "Cannot pull from remote: " ++ cause
  | databaseNotOpened path cause => "Cannot open database " ++ path ++ ": " ++ cause
  | cacheKeyMissing cause =>
    cause ++ "\nGenerate one with `smartlists auth --generate-key` and set SPOTIFY_CACHE_KEY."
  | cacheNotOpened cause => "Cannot open credential cache: " ++ cause
  | applicationNotConfigured cause => cause ++ ". Set it in your environment or .env file."
  | tokenNotLoaded cause =>
    "Failed to load token. Please run smartlists auth\n Error: " ++ cause
  | authorizationDenied reason => "Authorization was denied: " ++ reason
  | exchangeFailed cause => "Token exchange failed: " ++ cause
  | authenticationFailed cause => "Authentication failed: " ++ cause
  | tokenNotSaved cause => "Failed to save token to cache: " ++ cause
  | authenticated => "Authentication successful!"
  | serverStopped cause => "Callback server stopped: " ++ cause
  | browserNotOpened url =>
    "Failed to open browser. Please navigate to the following URL manually:\n" ++ url
  | invalidConfiguration cause => "Invalid configuration: " ++ cause
  | environmentNotLoaded cause => "Cannot load environment. Err: " ++ cause

/-- The mark in front of a line. -/
def mark : Level → String
  | .info => "o"
  | .success => "✓"
  | .warning => "!"
  | .fatal => "!"

/-- The printed line, without colour. -/
def line (n : Notice) : String := "[" ++ mark n.level ++ "] " ++ n.text

end Notice

end SmartPlaylist

import SmartPlaylist.Decimal.Natural
import SmartPlaylist.Decimal.Shortest
import SmartPlaylist.Settings.Environment
import SmartPlaylist.Text.Blank

/-!
# Settings

Everything that a command can be told from outside.  A variable that holds only
blanks counts as unset; any other value is taken as it stands.

## Main definitions

* `Settings` — the settings, `Settings.ofEnvironment` reads them.
* `Settings.parseTargetSize` — the size of a playlist from text.
* `Settings.requireClientId`, … — settings that only some commands need.
* `SettingError` — what is wrong with a setting.
-/

namespace SmartPlaylist

/-- What to do about a pin that does not resolve. -/
inductive UnresolvedPolicy where
  /-- Warn, and leave the track out. -/
  | skip
  /-- Give the playlist up. -/
  | fail
  deriving DecidableEq, Repr, Inhabited

/-- What is wrong with a setting. -/
inductive SettingError where
  | missing (name : String)
  | invalid (name value : String)
  deriving DecidableEq, Repr, Inhabited

/-- What is printed about a bad setting. -/
def SettingError.message : SettingError → String
  | .missing name => "missing setting " ++ name
  | .invalid name value => "invalid value `" ++ value ++ "` for setting " ++ name

/-- What a command needs to know. -/
structure Settings where
  /-- The file of the database. -/
  database : String
  /-- The directory of the playlist definitions. -/
  playlistsDirectory : String
  /-- How many tracks a synced playlist has. -/
  targetSize : Nat
  unresolved : UnresolvedPolicy
  clientId : Option String
  clientSecret : Option String
  redirectUri : Option String
  scope : String
  serverAddress : String
  apiUrl : String
  authUrl : String
  tokenUrl : String
  /-- The key of the credential cache, as text. -/
  cacheKey : Option String
  deriving DecidableEq, Repr, Inhabited

namespace Settings

/-! ### Defaults -/

/-- How many tracks a playlist has unless told otherwise. -/
def defaultTargetSize : Nat := 25

/-- How many places are kept for recommendations. -/
def defaultBackfill : Nat := 5

/-- The permissions that the program asks for. -/
def defaultScope : String :=
  "playlist-read-private user-read-recently-played playlist-modify-public " ++
    "playlist-modify-private user-library-read"

/-- Settings for work without the remote service. -/
def «local» (database playlistsDirectory : String) : Settings where
  database := database
  playlistsDirectory := playlistsDirectory
  targetSize := defaultTargetSize
  unresolved := .skip
  clientId := none
  clientSecret := none
  redirectUri := none
  scope := defaultScope
  serverAddress := "127.0.0.1:8888"
  apiUrl := "https://api.spotify.com/v1"
  authUrl := "https://accounts.spotify.com/authorize"
  tokenUrl := "https://accounts.spotify.com/api/token"
  cacheKey := none

/-! ### Target sizes -/

/-- The name of the variable that holds the target size. -/
def targetSizeName : String := "SMARTLISTS_TARGET_SIZE"

/-- A target size: a 64-bit number that leaves room for a track beside the recommendations. -/
def parseTargetSize (value : String) : Except SettingError Nat :=
  match Decimal.natural? (Text.trim value) with
  | some size =>
    if defaultBackfill < size then .ok size else .error (.invalid targetSizeName value)
  | none => .error (.invalid targetSizeName value)

/-! ### From the environment -/

/-- The value of a variable that is set to more than blanks. -/
def value? (env : Environment) (name : String) : Option String :=
  (env.get? name).filter fun v => !Text.isBlankText v

/-- The settings of an environment, given the program's own directory. -/
def ofEnvironment (env : Environment) (dataDirectory : String) : Except SettingError Settings := do
  let targetSize ← match value? env targetSizeName with
    | some value => parseTargetSize value
    | none => .ok defaultTargetSize
  let base := Settings.local (Environment.joinPath dataDirectory "spotify.db") "playlists"
  .ok { base with
    targetSize
    database := (value? env "SMARTLISTS_DATABASE").getD base.database
    playlistsDirectory := (value? env "SMARTLISTS_PLAYLISTS_DIR").getD base.playlistsDirectory
    clientId := value? env "SPOTIFY_CLIENT_ID"
    clientSecret := value? env "SPOTIFY_CLIENT_SECRET"
    redirectUri := value? env "SPOTIFY_REDIRECT_URI"
    scope := (value? env "SPOTIFY_API_AUTH_SCOPE").getD base.scope
    serverAddress := (value? env "SERVER_ADDRESS").getD base.serverAddress
    apiUrl := (value? env "SPOTIFY_API_URL").getD base.apiUrl
    authUrl := (value? env "SPOTIFY_API_AUTH_URL").getD base.authUrl
    tokenUrl := (value? env "SPOTIFY_API_TOKEN_URL").getD base.tokenUrl
    cacheKey := value? env "SPOTIFY_CACHE_KEY" }

/-! ### Settings that some commands need -/

/-- The client id of the application. -/
def requireClientId (s : Settings) : Except SettingError String :=
  match s.clientId with
  | some id => .ok id
  | none => .error (.missing "SPOTIFY_CLIENT_ID")

/-- The address to which the service sends the user back. -/
def requireRedirectUri (s : Settings) : Except SettingError String :=
  match s.redirectUri with
  | some uri => .ok uri
  | none => .error (.missing "SPOTIFY_REDIRECT_URI")

end Settings

end SmartPlaylist

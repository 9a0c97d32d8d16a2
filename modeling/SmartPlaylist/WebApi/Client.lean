import SmartPlaylist.Authorization.Grant
import SmartPlaylist.Credential.Cache
import SmartPlaylist.Remote.Batch
import SmartPlaylist.Remote.Service
import SmartPlaylist.WebApi.Http

/-!
# The client

The remote service over the network.  Every request carries an access token that
is good for some minutes more; an expired one is refreshed first, and the fresh
one kept in the credential cache.  A request is repeated while the service asks
for a short wait or is briefly unavailable.

## Main definitions

* `Client` — what the client holds; `Client.Config` — what it is told.
* `Client.renewedToken`, `Client.validToken` — an access token that is not expired.
* `Client.send` — a request with its repetitions.
* `Client.playlistService`, `Client.libraryService` — the two interfaces.
-/

namespace SmartPlaylist

/-- What the client holds: the network, the token, the database with the credential cache, the
user's id once it is known, and the remarks of the call under way. -/
structure Client (τ : Type) where
  network : τ
  token : Token
  database : Database
  userId : Option String := none
  notices : List RemoteNotice := []

/-- What the client is told. -/
structure Client.Config (τ : Type) where
  net : Network τ
  settings : Settings
  key : CipherKey
  /-- How often a request is tried at most. -/
  attemptLimit : Nat := 0x1_0000_0000

namespace Client

variable {τ α : Type}

/-- The service under which the token is kept in the credential cache. -/
def credentialService : String := "spotify"

/-- The longest wait in seconds that a call takes upon itself. -/
def longestWait : Nat := 120

/-- The wait in seconds after the service was unavailable. -/
def unavailableWait : Nat := 10

/-- A program that uses the client. -/
abbrev Action (τ α : Type) := ExceptT RemoteError (StateM (Client τ)) α

/-- A program on the network as one on the client. -/
def onNetwork (a : Network.Action τ α) : Action τ α :=
  ExceptT.mk fun c =>
    let (result, network) := a.run c.network
    (result, { c with network })

/-- Leaves a remark. -/
def remark (n : RemoteNotice) : Action τ Unit :=
  modify fun c => { c with notices := c.notices ++ [n] }

/-- A program as a call with its remarks. -/
def call (a : Action τ α) : Call (Client τ) α := fun c =>
  let (result, after) := a.run { c with notices := [] }
  (⟨result, after.notices⟩, { after with notices := [] })

/-! ### Tokens -/

/-- Keeps the token in the credential cache. -/
def persist (cfg : Config τ) (c : Client τ) : Except CacheError Unit × Client τ :=
  let (nonce, network) := cfg.net.nonce c.network
  let (result, database) :=
    (Cache.set cfg.key nonce credentialService c.token.toJson).run c.database
  (result, { c with network, database })

/-- The token that an earlier command left in the credential cache. -/
def cachedToken (key : CipherKey) (db : Database) : Except RemoteError Token :=
  match ((Cache.get key Token.kind credentialService).run db).1 with
  | .ok (some token) => .ok token
  | .ok none => .error (.auth "no cached token, run `smartlists auth` first")
  | .error e => .error (.cache e)

/-- Takes a fresh token and keeps it; it is used even if it cannot be kept. -/
def adopt (cfg : Config τ) (token : Token) : Action τ Unit :=
  ExceptT.mk fun c =>
    match persist cfg { c with token } with
    | (.ok (), after) => (.ok (), after)
    | (.error e, after) =>
      (.ok (), { after with notices := after.notices ++ [.tokenNotSaved e.message] })

/-- Asks for a fresh token and uses it. -/
def renewedToken (cfg : Config τ) (refreshToken : String) : Action τ String := do
  let fresh ← onNetwork (Grant.refresh cfg.net cfg.settings refreshToken)
  adopt cfg fresh
  return (← get).token.accessToken

/-- An access token that is good for some minutes more. -/
def validToken (cfg : Config τ) : Action τ String := do
  let c ← get
  match c.token.isExpiredAt? (cfg.net.now c.network) with
  | none => throw .uncountableSeconds
  | some false => return c.token.accessToken
  | some true => renewedToken cfg c.token.refreshToken

/-! ### Requests -/

/-- The seconds that an answer asks to wait for; one if it does not say. -/
def retryAfter (r : HttpResponse) : Nat :=
  ((r.headers.lookup "retry-after").bind Decimal.natural?).getD 1

/-- Tries a request a number of times. -/
def attempt (cfg : Config τ) (request : Option HttpRequest) : Nat → Action τ HttpResponse
  | 0 => throw (.http .unreachable)
  | fuel + 1 => do
    let token ← validToken cfg
    match request with
    | none => throw (.http .unreachable)
    | some request =>
      let response ← onNetwork (cfg.net.transmit (request.withToken token))
      if response.status = 429 then
        let seconds := retryAfter response
        if longestWait < seconds then do
          remark (.longWait seconds)
          throw (.rateLimited seconds)
        else do
          modify fun c => { c with network := cfg.net.sleep seconds c.network }
          attempt cfg request fuel
      else if response.status = 502 then do
        modify fun c => { c with network := cfg.net.sleep unavailableWait c.network }
        attempt cfg request fuel
      else ExceptT.mk (pure (Network.succeed response))

/-- Sends a request and repeats it as long as that makes sense. -/
def send (cfg : Config τ) (request : Option HttpRequest) : Action τ HttpResponse :=
  attempt cfg request cfg.attemptLimit

/-- The URL of a path of the service, with pairs in its query. -/
def url? (cfg : Config τ) (path : String) (pairs : List (String × String)) : Option Url :=
  let base := String.ofList (cfg.settings.apiUrl.toList.reverse.dropWhile (· = '/')).reverse
  (Url.parse (base ++ path)).map fun u => if pairs.isEmpty then u else u.appendPairs pairs

/-- Reads a path of the service. -/
def read (cfg : Config τ) (path : String) (pairs : List (String × String))
    (kind : Json.Kind α) : Action τ α := do
  let response ← send cfg ((url? cfg path pairs).map HttpRequest.read)
  ExceptT.mk (pure (Network.content kind response))

/-! ### Answers -/

/-- The answer with a page of playlists. -/
def playlistPage : Json.Kind (Page RemotePlaylist) where
  shape := .record [("items", RemotePlaylist.kind.list.shape), ("next", .everything)]
  ofJson? v :=
    match v.slots ["items", "next"] with
    | some [items, next] => do
      let items ← items.required RemotePlaylist.kind.list.ofJson?
      let next ← next.optional Json.text?
      some ⟨items, next.isSome⟩
    | _ => none

/-- The answer with a page of saved tracks. -/
def savedTrackPage : Json.Kind (Page SavedTrack) where
  shape := .record
    [("items", SavedTrack.kind.list.shape), ("next", .everything), ("total", .everything)]
  ofJson? v :=
    match v.slots ["items", "next", "total"] with
    | some [items, next, total] => do
      let items ← items.required SavedTrack.kind.list.ofJson?
      let next ← next.optional Json.text?
      let _ ← total.optional Json.natural?
      some ⟨items, next.isSome⟩
    | _ => none

/-- The cursors of an answer; nothing of them is kept. -/
def cursors : Json.Kind Unit where
  shape := .plain ["after", "before"]
  ofJson? v :=
    match v.slots ["after", "before"] with
    | some [after, before] => do
      let _ ← after.optional Json.text?
      let _ ← before.optional Json.text?
      some ()
    | _ => none

/-- The answer with the latest plays. -/
def recentPlays : Json.Kind (List PlayedTrack) where
  shape := .record
    [("items", PlayedTrack.kind.list.shape), ("next", .everything), ("cursors", cursors.shape)]
  ofJson? v :=
    match v.slots ["items", "next", "cursors"] with
    | some [items, next, position] => do
      let items ← items.required PlayedTrack.kind.list.ofJson?
      let _ ← next.optional Json.text?
      let _ ← position.optional cursors.ofJson?
      some items
    | _ => none

/-- An answer with one field. -/
def only (name : String) (field : Json.Kind α) : Json.Kind α where
  shape := .record [(name, field.shape)]
  ofJson? v :=
    match v.slots [name] with
    | some [x] => x.required field.ofJson?
    | _ => none

/-- A text. -/
def plainText : Json.Kind String := ⟨.everything, Json.text?⟩

/-! ### The user's playlists -/

/-- The user's id, asked for once. -/
def currentUserId (cfg : Config τ) : Action τ String := do
  match (← get).userId with
  | some id => return id
  | none =>
    let id ← read cfg "/me" [] (only "id" plainText)
    modify fun c => { c with userId := some id }
    return id

/-- Creates a playlist. -/
def createPlaylist (cfg : Config τ) (name : String) : Action τ String := do
  let user ← currentUserId cfg
  let body := Json.object
    [("name", .string name),
      ("description", .string "Rotating smart playlist managed by smartlists"),
      ("public", .bool true), ("collaborative", .bool false)]
  let url := url? cfg ("/users/" ++ user ++ "/playlists") []
  let response ← send cfg (url.map fun u => .withJson .post u body)
  let playlist ← ExceptT.mk (pure (Network.content RemotePlaylist.kind response))
  return playlist.id

/-- The address of a track in the service's own scheme. -/
def trackUri (trackId : String) : String := "spotify:track:" ++ trackId

/-- The body that puts tracks into a playlist. -/
def urisBody (uris : List String) : Json := .object [("uris", .array (uris.map Json.string))]

/-- Replaces the tracks of a playlist: the first batch replaces what is there, the others are
added at its end. -/
def replaceTracks (cfg : Config τ) (playlistId : String) (trackIds : List String) :
    Action τ Unit := do
  let url := url? cfg ("/playlists/" ++ playlistId ++ "/tracks") []
  let parts := batches playlistBatchSize (trackIds.map trackUri)
  let _ ← send cfg (url.map fun u => .withJson .put u (urisBody (parts.headD [])))
  (parts.drop 1).forM fun part => do
    let _ ← send cfg (url.map fun u => .withJson .post u (urisBody part))

/-- Asks for recommendations; without seeds or places there are none. -/
def recommendations (cfg : Config τ) (seeds : List String) (limit : Nat) :
    Action τ (List String) :=
  if seeds.isEmpty || limit == 0 then return []
  else do
    let tracks ← read cfg "/recommendations"
      [("seed_tracks", ",".intercalate seeds), ("limit", Decimal.digitText limit)]
      (only "tracks" TrackRecord.kind.list)
    return tracks.filterMap TrackRecord.id

/-- The pairs that ask for a page. -/
def pageParameters (offset limit : Nat) : List (String × String) :=
  [("offset", Decimal.digitText offset), ("limit", Decimal.digitText limit)]

/-- The client as a service for the user's playlists. -/
def playlistService (cfg : Config τ) : PlaylistService (Client τ) where
  userPlaylists offset limit :=
    call (read cfg "/me/playlists" (pageParameters offset limit) playlistPage)
  createPlaylist name := call (createPlaylist cfg name)
  replaceTracks id trackIds := call (replaceTracks cfg id trackIds)
  recommendations seeds limit := call (recommendations cfg seeds limit)

/-! ### The user's library -/

/-- The latest plays, after a moment if one is given. -/
def recentlyPlayed (cfg : Config τ) (after : Option Moment) : Action τ (List PlayedTrack) :=
  let cursor := after.map fun m => ("after", toString m.unixMillis)
  read cfg "/me/player/recently-played"
    (("limit", Decimal.digitText recentPlaysLimit) :: cursor.toList) recentPlays

/-- Reads records by their ids; those that the service does not know are left out. -/
def readMany (cfg : Config τ) (path name : String) (item : Json.Kind α) (ids : List String) :
    Action τ (List α) :=
  if ids.isEmpty then return []
  else do
    let found ← read cfg path [("ids", ",".intercalate ids)] (only name item.nullable.list)
    return found.filterMap id

/-- The client as a service for the user's library. -/
def libraryService (cfg : Config τ) : LibraryService (Client τ) where
  savedTracks offset limit :=
    call (read cfg "/me/tracks" (pageParameters offset limit) savedTrackPage)
  recentlyPlayed after := call (recentlyPlayed cfg after)
  artists ids := call (readMany cfg "/artists" "artists" RemoteArtist.kind ids)
  audioFeatures ids :=
    call (readMany cfg "/audio-features" "audio_features" RemoteFeatures.kind ids)

end Client

end SmartPlaylist

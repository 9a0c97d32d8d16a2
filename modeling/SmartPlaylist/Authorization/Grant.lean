import SmartPlaylist.Credential.Token
import SmartPlaylist.WebApi.Http

/-!
# Getting tokens

The user grants access at an address of the service, which answers with a code;
the code is exchanged for a token, and later the token's refresh token for the
next one.

## Main definitions

* `Grant.authorizeUrl` — where the user grants access.
* `Grant.exchangeCode`, `Grant.refresh` — tokens for a code and for a refresh token.
-/

namespace SmartPlaylist.Grant

variable {τ : Type}

/-- A setting that must be there. -/
def required (s : Except SettingError String) : Except RemoteError String :=
  match s with
  | .ok value => .ok value
  | .error e => .error (.setting e)

/-- The address at which the user grants access. -/
def authorizeUrl (s : Settings) (challenge : String) : Except RemoteError Url := do
  let clientId ← required s.requireClientId
  let redirectUri ← required s.requireRedirectUri
  match Url.parse s.authUrl with
  | none => .error .invalidAuthorizeUrl
  | some url =>
    .ok (url.appendPairs
      [("client_id", clientId), ("response_type", "code"), ("redirect_uri", redirectUri),
        ("code_challenge", challenge), ("code_challenge_method", "S256"), ("scope", s.scope)])

/-- Sends a form to the address that gives tokens, and reads the answer. -/
def requestToken (net : Network τ) (s : Settings) (pairs : List (String × String))
    (secret : Option (String × String)) : Network.Action τ TokenResponse := do
  match Url.parse s.tokenUrl with
  | none => throw (.http .unreachable)
  | some url =>
    let form := HttpRequest.withForm url pairs
    let request := match secret with
      | some (user, password) => form.withPassword user password
      | none => form
    let response ← net.transmit request
    let response ← ExceptT.mk (pure (Network.succeed response))
    ExceptT.mk (pure (Network.content TokenResponse.kind response))

/-- The token of an answer, which came now. -/
def stamp (net : Network τ) (r : TokenResponse) (previous : Option String) :
    Network.Action τ Token := do
  return Token.ofResponse r previous (net.now (← get))

/-- A fresh token for a refresh token. -/
def refresh (net : Network τ) (s : Settings) (refreshToken : String) :
    Network.Action τ Token := do
  let clientId ← ExceptT.mk (pure (required s.requireClientId))
  let response ← requestToken net s
    [("grant_type", "refresh_token"), ("refresh_token", refreshToken), ("client_id", clientId)]
    (s.clientSecret.map fun secret => (clientId, secret))
  stamp net response (some refreshToken)

/-- A token for a code and the secret whose digest was sent along.  The answer must have a refresh
token. -/
def exchangeCode (net : Network τ) (s : Settings) (code verifier : String) :
    Network.Action τ Token := do
  let clientId ← ExceptT.mk (pure (required s.requireClientId))
  let redirectUri ← ExceptT.mk (pure (required s.requireRedirectUri))
  let response ← requestToken net s
    [("grant_type", "authorization_code"), ("client_id", clientId), ("code", code),
      ("code_verifier", verifier), ("redirect_uri", redirectUri)] none
  if response.refreshToken.isNone then
    throw (.auth "token response did not contain a refresh token")
  stamp net response none

end SmartPlaylist.Grant

import SmartPlaylist.Authorization.Grant
import SmartPlaylist.Session.Notice

/-!
# The callback

While the user grants access, a small server waits for the service to send the
user back with a code.  It exchanges the code for a token and keeps it for the
command that waits.

## Main definitions

* `PendingGrant` — the secret sent along, and the token once there is one.
* `Callback.respond` — the answer to a request.
* `Callback.await` — the answers to requests until there is a token.
* `Callback.checkAddress` — whether the server can listen at an address.
-/

namespace SmartPlaylist

/-- A grant under way. -/
structure PendingGrant where
  verifier : String
  token : Option Token
  deriving DecidableEq, Repr, Inhabited

/-- The answer to a request of the browser. -/
structure CallbackAnswer where
  status : Nat
  /-- A JSON value or a page. -/
  body : Json ⊕ String

namespace Callback

variable {τ : Type}

/-- What the server has: the network, the grant under way if there is one, and the notices. -/
structure State (τ : Type) where
  network : τ
  grant : Option PendingGrant
  notices : List Notice := []

/-- A page. -/
def page (html : String) : CallbackAnswer := ⟨200, .inr html⟩

/-- Whether the program still waits for the service to send the user back. -/
def isAwaiting (grant : Option PendingGrant) : Bool := !grant.any fun g => g.token.isSome

/-- The state of the server, as a JSON value. -/
def health (grant : Option PendingGrant) : Json :=
  .object [("awaiting_callback", .bool (isAwaiting grant)), ("service", .string "smartlists"),
    ("status", .string "ok"), ("version", .string "0.1.0-dev")]

/-- The value of a name among pairs; the last one counts. -/
def parameter? (pairs : List (String × String)) (name : String) : Option String :=
  pairs.reverse.lookup name

/-- Answers the request with which the service sends the user back. -/
def callback (net : Network τ) (settings : Settings) (pairs : List (String × String))
    (s : State τ) : CallbackAnswer × State τ :=
  match parameter? pairs "error" with
  | some reason =>
    (page "<h4>Authorization denied.</h4>",
      { s with notices := s.notices ++ [.authorizationDenied reason] })
  | none =>
    match parameter? pairs "code", s.grant with
    | none, _ => (page "<h4>Missing authorization code.</h4>", s)
    | some _, none => (page "<h4>Missing PKCE code verifier.</h4>", s)
    | some code, some grant =>
      match (Grant.exchangeCode net settings code grant.verifier).run s.network with
      | (.ok token, network) =>
        (page "<h2>Authentication successful.</h2><p>You can close this window.</p>",
          { s with network, grant := some { grant with token := some token } })
      | (.error e, network) =>
        (page "<h4>Login failed.</h4>",
          { s with network, notices := s.notices ++ [.exchangeFailed e.message] })

/-- Answers a request for a path with its query. -/
def respond (net : Network τ) (settings : Settings) (method target : String) (s : State τ) :
    CallbackAnswer × State τ :=
  let path := String.ofList (target.toList.takeWhile (· ≠ '?'))
  let query := String.ofList ((target.toList.dropWhile (· ≠ '?')).drop 1)
  if path = "/health" ∨ path = "/callback" then
    if method = "GET" ∨ method = "HEAD" then
      if path = "/health" then (⟨200, .inl (health s.grant)⟩, s)
      else callback net settings (Url.Form.decode query) s
    else (⟨405, .inr ""⟩, s)
  else (⟨404, .inr ""⟩, s)

/-- A request of the browser, and how the network changes before it comes. -/
structure Visit (τ : Type) where
  turn : τ → τ
  method : String
  target : String

/-- Answers the requests that come in time, one after another, until there is a token. -/
def await (net : Network τ) (settings : Settings) : List (Visit τ) → State τ → State τ
  | [], s => s
  | visit :: visits, s =>
    let s := { s with network := visit.turn s.network }
    let after := (respond net settings visit.method visit.target s).2
    if isAwaiting after.grant then await net settings visits after else after

/-- Why the server cannot listen at an address, if it is not an IP address with a port. -/
def checkAddress (address : String) : Except String Unit :=
  let cs := address.toList
  let host := (cs.reverse.dropWhile (· ≠ ':')).drop 1
  let port := (cs.reverse.takeWhile (· ≠ ':')).reverse
  let portOk := !port.isEmpty && port.all Char.isDigit && Decimal.ofDigits port < 0x1_0000
  let hostOk := match host.reverse with
    | '[' :: rest => rest.getLast? = some ']' && (Url.Host.ofIpv6? rest.dropLast).isSome
    | host => (Url.Host.dottedPieces? host).isSome
  if portOk && hostOk then .ok ()
  else .error ("invalid server address " ++ address ++ ": invalid socket address syntax")

end Callback

end SmartPlaylist

import SmartPlaylist.Credential.Key
import SmartPlaylist.Json.Kind
import SmartPlaylist.Json.Writer
import SmartPlaylist.Remote.Error
import SmartPlaylist.Url.Basic

/-!
# Requests and answers

What goes over the network, and the network itself, which is given from outside:
it sends requests, tells the time, lets time pass, and has numbers to use once.

## Main definitions

* `HttpRequest`, `HttpResponse` — what is sent and what comes back.
* `Network` — a network with states `τ`.
* `Network.Action`, `Network.transmit` — programs that use it, and sending a request.
-/

namespace SmartPlaylist

/-- What a request asks for. -/
inductive HttpMethod where
  | get
  | post
  | put
  deriving DecidableEq, Repr, Inhabited

/-- A request. -/
structure HttpRequest where
  method : HttpMethod
  url : Url
  authorization : Option String := none
  contentType : Option String := none
  body : String := ""
  deriving DecidableEq, Repr

/-- An answer. -/
structure HttpResponse where
  status : Nat
  /-- Names are in lower case. -/
  headers : List (String × String)
  body : List UInt8
  deriving DecidableEq, Repr, Inhabited

namespace HttpRequest

/-- A request to read a URL. -/
def read (url : Url) : HttpRequest := { method := .get, url }

/-- A request that carries a JSON value. -/
def withJson (method : HttpMethod) (url : Url) (body : Json) : HttpRequest :=
  { method, url, contentType := some "application/json", body := body.compact }

/-- A request that carries a form. -/
def withForm (url : Url) (pairs : List (String × String)) : HttpRequest :=
  { method := .post, url, contentType := some "application/x-www-form-urlencoded",
    body := Url.Form.encode pairs }

/-- The request with an access token. -/
def withToken (r : HttpRequest) (token : String) : HttpRequest :=
  { r with authorization := some ("Bearer " ++ token) }

/-- The request with a user name and a password. -/
def withPassword (r : HttpRequest) (user password : String) : HttpRequest :=
  let text := Base64.encode .standard (Text.utf8 (user ++ ":" ++ password))
  { r with authorization := some ("Basic " ++ text) }

/-- Whether the request can be sent: a header may not hold control characters. -/
def isSendable (r : HttpRequest) : Bool :=
  r.authorization.all fun a => a.toList.all fun c =>
    c = '\t' || (0x20 ≤ c.toNat && c.toNat ≠ 0x7F)

end HttpRequest

/-- Whether an answer reports an error. -/
def HttpResponse.isError (r : HttpResponse) : Bool := 400 ≤ r.status && r.status < 600

/-- A network with states `τ`. -/
structure Network (τ : Type) where
  /-- The answer to a request, or none when the other side cannot be reached. -/
  send : HttpRequest → τ → Option HttpResponse × τ
  /-- Seconds since the start of 1970. -/
  now : τ → UInt64
  /-- Lets seconds pass. -/
  sleep : Nat → τ → τ
  /-- A number that was not used before. -/
  nonce : τ → Nonce × τ

namespace Network

variable {τ α : Type}

/-- A program that uses the network. -/
abbrev Action (τ α : Type) := ExceptT RemoteError (StateM τ) α

/-- Sends a request. -/
def transmit (net : Network τ) (request : HttpRequest) : Action τ HttpResponse :=
  ExceptT.mk fun t =>
    if request.isSendable then
      match net.send request t with
      | (some response, t) => (.ok response, t)
      | (none, t) => (.error (.http .unreachable), t)
    else (.error (.http .unreachable), t)

/-- The answer, unless it reports an error. -/
def succeed (response : HttpResponse) : Except RemoteError HttpResponse :=
  if response.isError then .error (.http (.status response.status)) else .ok response

/-- The content of an answer, read as its kind asks. -/
def content (kind : Json.Kind α) (response : HttpResponse) : Except RemoteError α :=
  match kind.ofBytes? response.body with
  | some x => .ok x
  | none => .error (.http .unreadableBody)

end Network

end SmartPlaylist

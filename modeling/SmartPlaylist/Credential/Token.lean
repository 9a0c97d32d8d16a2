import SmartPlaylist.Json.Kind
import SmartPlaylist.Json.Record

/-!
# Access tokens

A token gives access for some seconds after it was obtained.  It comes with
another one, the refresh token, for which the service gives a fresh access token;
when the service then leaves the refresh token out, the former one stays.

Seconds are 64-bit numbers.  Where a sum of them takes more than 64 bits, there is no telling
whether a token is expired.

## Main definitions

* `TokenResponse` — what the service answers.
* `Token` — what is kept, `Token.ofResponse` makes it.
* `Token.isExpiredAt?` — whether it is time for a fresh one.
-/

namespace SmartPlaylist

/-- The service's answer. -/
structure TokenResponse where
  accessToken : String
  refreshToken : Option String
  scope : String
  /-- Seconds for which the access token is good. -/
  expiresIn : UInt64
  deriving DecidableEq, Repr, Inhabited

/-- Reads an answer; scope and seconds may be left out. -/
def TokenResponse.ofJson? (v : Json) : Option TokenResponse :=
  match v.slots ["access_token", "refresh_token", "scope", "expires_in"] with
  | some [accessToken, refreshToken, scope, expiresIn] => do
    let accessToken ← accessToken.required Json.text?
    let refreshToken ← refreshToken.optional Json.text?
    let scope ← scope.defaulted "" Json.text?
    let expiresIn ← expiresIn.defaulted 3600 Json.natural?
    some ⟨accessToken, refreshToken, scope, expiresIn⟩
  | _ => none

/-- How an answer is read from text. -/
def TokenResponse.kind : Json.Kind TokenResponse :=
  ⟨.plain ["access_token", "refresh_token", "scope", "expires_in"], ofJson?⟩

/-- An access token and what is needed to get the next one. -/
structure Token where
  accessToken : String
  refreshToken : String
  scope : String
  expiresIn : UInt64
  /-- Seconds since the start of 1970. -/
  obtainedAt : UInt64
  deriving DecidableEq, Repr, Inhabited

namespace Token

/-- The token of an answer that came at `now`.  Without a refresh token in it, the former one
stays. -/
def ofResponse (r : TokenResponse) (previous : Option String) (now : UInt64) : Token :=
  ⟨r.accessToken, (r.refreshToken.or previous).getD "", r.scope, r.expiresIn, now⟩

/-- How many seconds before its end a token counts as expired. -/
def expiryMargin : UInt64 := 240

/-- The sum of seconds, if it is a 64-bit number. -/
def sum? (a b : UInt64) : Option UInt64 :=
  if a.toNat + b.toNat < UInt64.size then some (a + b) else none

/-- Whether the token is expired at a time, or will be within the margin; none if the seconds cannot
be summed up. -/
def isExpiredAt? (t : Token) (now : UInt64) : Option Bool := do
  let soon ← sum? now expiryMargin
  let ending ← sum? t.obtainedAt t.expiresIn
  return ending ≤ soon

/-- The token as a record. -/
def toJson (t : Token) : Json :=
  .object [("access_token", .string t.accessToken), ("refresh_token", .string t.refreshToken),
    ("scope", .string t.scope), ("expires_in", .number (.whole (.ofWord t.expiresIn))),
    ("obtained_at", .number (.whole (.ofWord t.obtainedAt)))]

/-- Reads a token. -/
def ofJson? (v : Json) : Option Token :=
  match v.slots ["access_token", "refresh_token", "scope", "expires_in", "obtained_at"] with
  | some [accessToken, refreshToken, scope, expiresIn, obtainedAt] => do
    let accessToken ← accessToken.required Json.text?
    let refreshToken ← refreshToken.required Json.text?
    let scope ← scope.required Json.text?
    let expiresIn ← expiresIn.required Json.natural?
    let obtainedAt ← obtainedAt.required Json.natural?
    some ⟨accessToken, refreshToken, scope, expiresIn, obtainedAt⟩
  | _ => none

/-- How a token is read from text. -/
def kind : Json.Kind Token :=
  ⟨.plain ["access_token", "refresh_token", "scope", "expires_in", "obtained_at"], ofJson?⟩

end Token

end SmartPlaylist

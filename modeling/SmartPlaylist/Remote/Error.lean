import SmartPlaylist.Credential.Error
import SmartPlaylist.Settings.Basic

/-!
# Failures of the remote service

## Main definitions

* `HttpFailure` — what can go wrong with one request.
* `RemoteError` — why a call fails, with its message.
-/

namespace SmartPlaylist

/-- What went wrong with a request. -/
inductive HttpFailure where
  /-- The service could not be reached. -/
  | unreachable
  /-- The service answered with an error status. -/
  | status (code : Nat)
  /-- The body of the answer could not be read. -/
  | unreadableBody
  deriving DecidableEq, Repr, Inhabited

/-- Why a call of the service fails. -/
inductive RemoteError where
  | http (failure : HttpFailure)
  /-- The service asked to wait for longer than a call waits. -/
  | rateLimited (seconds : Nat)
  /-- There is no usable access token. -/
  | auth (reason : String)
  /-- There is no telling whether the access token is expired: the seconds cannot be summed up. -/
  | uncountableSeconds
  /-- The address at which the user grants access is no URL. -/
  | invalidAuthorizeUrl
  | cache (e : CacheError)
  | setting (e : SettingError)
  /-- A listing has more items than can be counted. -/
  | endlessListing
  deriving DecidableEq, Repr, Inhabited

/-- What is printed about a failed call. -/
def RemoteError.message : RemoteError → String
  | .http .unreachable => "request failed: the service cannot be reached"
  | .http (.status code) => "request failed: status " ++ Decimal.digitText code
  | .http .unreadableBody => "request failed: the answer cannot be read"
  | .rateLimited seconds =>
    "spotify asked to retry after " ++ Decimal.digitText seconds ++ " seconds"
  | .auth reason => "no valid access token: " ++ reason
  | .uncountableSeconds => "attempt to add with overflow"
  | .invalidAuthorizeUrl => "no valid access token: invalid authorize url: it is not a URL"
  | .cache e => e.message
  | .setting e => e.message
  | .endlessListing => "request failed: the listing does not end"

/-- The user did not grant access, or not in time. -/
def RemoteError.notGranted : RemoteError := .auth "authentication failed or timed out"

end SmartPlaylist

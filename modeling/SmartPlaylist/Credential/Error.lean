import SmartPlaylist.Settings.Basic
import SmartPlaylist.Store.Action

/-!
# Why credentials cannot be had

## Main definitions

* `CacheError` — the causes, with their messages.
-/

namespace SmartPlaylist

/-- Why credentials cannot be read or written. -/
inductive CacheError where
  /-- No key is configured. -/
  | missingKey
  /-- The key is not the text of 32 bytes. -/
  | invalidKey
  /-- The stored text of a service is damaged, or was made with another key. -/
  | undecryptable (service : String)
  /-- What was stored is not of the kind asked for. -/
  | malformed
  | store (e : StoreError)
  deriving DecidableEq, Repr, Inhabited

/-- What is printed about unusable credentials. -/
def CacheError.message : CacheError → String
  | .missingKey => "credential cache key is not configured"
  | .invalidKey => "credential cache key must be 32 base64-encoded bytes"
  | .undecryptable service =>
    "cannot decrypt cached credentials for `" ++ service ++ "` (corrupt data or wrong key)"
  | .malformed => "cached credentials are not valid JSON: unexpected content"
  | .store e => e.message

/-- The key of the credential cache, if it is set to more than blanks. -/
def Settings.requireCacheKey (s : Settings) : Except CacheError String :=
  match s.cacheKey.filter fun key => !Text.isBlankText key with
  | some key => .ok key
  | none => .error .missingKey

end SmartPlaylist

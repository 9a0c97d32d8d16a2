import SmartPlaylist.Cipher.Gcm
import SmartPlaylist.Credential.Key
import SmartPlaylist.Json.Kind
import SmartPlaylist.Json.Writer
import SmartPlaylist.Text.Utf8

/-!
# The credential cache

Each service has at most one value, stored as the base 64 text of a nonce and a
box.  What stands in the table is not trusted: whatever was changed in it is
noticed when it is read.

## Main definitions

* `Cache.encrypt`, `Cache.decrypt` — the stored text of a plain text, and back.
* `Cache.set`, `Cache.get` — writing and reading the value of a service.
-/

namespace SmartPlaylist.Cache

/-- A program that works on the credentials and may fail. -/
abbrev Action (α : Type) := ExceptT CacheError (StateM Database) α

/-- An action on the database as one on the credentials. -/
def ofStore {α : Type} (a : Store.Action α) : Action α :=
  ExceptT.mk fun db =>
    match a.outcome db with
    | (.ok x, after) => (.ok x, after)
    | (.error e, after) => (.error (.store e), after)

/-- The cipher of a key. -/
def cipher (key : CipherKey) : Gcm.Cipher :=
  let keys := Aes.roundKeys key.bytes
  fun block => Aes.encrypt keys block

/-- The text to store for a plain text. -/
def encrypt (key : CipherKey) (nonce : Nonce) (plain : List UInt8) : String :=
  Base64.encode .standard (nonce.bytes ++ Gcm.close (cipher key) nonce.bytes plain)

/-- The plain text of a stored one; blanks around it do not count. -/
def decrypt (key : CipherKey) (service stored : String) : Except CacheError (List UInt8) :=
  match Base64.decode .standard (Text.trim stored) with
  | none => .error (.undecryptable service)
  | some blob =>
    if blob.length ≤ 12 then .error (.undecryptable service)
    else
      match Gcm.open? (cipher key) (blob.take 12) (blob.drop 12) with
      | some plain => .ok plain
      | none => .error (.undecryptable service)

/-- The value of a plain text, read as its kind asks. -/
def readPlain {α : Type} (kind : Json.Kind α) (plain : List UInt8) : Except CacheError α :=
  match kind.ofBytes? plain with
  | some x => .ok x
  | none => .error .malformed

/-- Reads the value of a service from the first row that it has. -/
def get {α : Type} (key : CipherKey) (kind : Json.Kind α) (service : String) :
    Action (Option α) := do
  let all ← ofStore (Store.rows .credentials)
  match all.find? fun r => r.service = service with
  | none => return none
  | some row => do
    let plain ← ExceptT.mk (pure (decrypt key service row.creds))
    let x ← ExceptT.mk (pure (readPlain kind plain))
    return some x

/-- Makes a value the only one of its service. -/
def set (key : CipherKey) (nonce : Nonce) (service : String) (value : Json) : Action Unit :=
  ofStore <| Store.transaction do
    let stored := encrypt key nonce (Text.utf8 value.compact)
    Store.deleteWhere .credentials fun r => r.service = service
    Store.insert .credentials ⟨service, stored⟩

end SmartPlaylist.Cache

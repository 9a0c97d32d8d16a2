import SmartPlaylist.Cipher.Sha256
import SmartPlaylist.Credential.Key
import SmartPlaylist.Text.Utf8

/-!
# Proof keys

Whoever asks for access proves later to be the same by a secret of which only the
digest was sent along.

## Main definitions

* `Pkce.verifier` — a random secret.
* `Pkce.challenge` — the digest of a secret, as text.
* `CipherKey.random` — a random key for the credential cache.
-/

namespace SmartPlaylist

/-- The characters of a secret. -/
def Pkce.alphabet : List Char :=
  "ABCDEFGHIJKLMNOPQRSTUVWXYZabcdefghijklmnopqrstuvwxyz0123456789".toList

/-- A secret of 128 characters, each from a random number. -/
def Pkce.verifier (word : Nat → Nat) : String :=
  String.ofList ((List.range 128).map fun i => Pkce.alphabet.getD (word i % 62) 'A')

/-- The digest of a secret, in the URL-safe alphabet without padding. -/
def Pkce.challenge (verifier : String) : String :=
  Base64.encodeUnpadded .urlSafe (Sha256.digest (Text.utf8 verifier))

/-- A key, each byte from a random number. -/
def CipherKey.random (word : Nat → Nat) : CipherKey :=
  ⟨(List.range 32).map fun i => (word i).toUInt8, by simp⟩

end SmartPlaylist

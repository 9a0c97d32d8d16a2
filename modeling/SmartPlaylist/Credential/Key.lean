import SmartPlaylist.Codec.Base64
import SmartPlaylist.Credential.Error
import SmartPlaylist.Text.Blank

/-!
# Keys of the credential cache

A key is 32 bytes, written in base 64 in either alphabet; blanks around it do not
count.

## Main definitions

* `CipherKey`, `CipherKey.parse` — keys, and reading them.
* `CipherKey.text` — the text of a key.
* `Nonce` — the number used once that goes with every encryption.
-/

namespace SmartPlaylist

/-- A key of 32 bytes. -/
structure CipherKey where
  bytes : List UInt8
  length_eq : bytes.length = 32
  deriving DecidableEq

/-- Twelve bytes that are used once. -/
structure Nonce where
  bytes : List UInt8
  length_eq : bytes.length = 12
  deriving DecidableEq

namespace CipherKey

/-- The bytes of a text in the URL-safe alphabet, or else in the standard one. -/
def decode? (s : String) : Option (List UInt8) :=
  match Base64.decode .urlSafe s with
  | some bytes => some bytes
  | none => Base64.decode .standard s

/-- Reads a key. -/
def parse (s : String) : Except CacheError CipherKey :=
  let s := Text.trim s
  if s.isEmpty then .error .missingKey
  else
    match decode? s with
    | some bytes => if h : bytes.length = 32 then .ok ⟨bytes, h⟩ else .error .invalidKey
    | none => .error .invalidKey

/-- The text of a key. -/
def text (k : CipherKey) : String := Base64.encode .urlSafe k.bytes

end CipherKey

/-- The nonce made of the low twelve bytes of a number. -/
def Nonce.ofNat (n : Nat) : Nonce :=
  ⟨(List.range 12).map fun i => (n / Nat.pow 256 i).toUInt8, by simp⟩

end SmartPlaylist

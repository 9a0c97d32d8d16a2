import SmartPlaylist.Text.Hexadecimal
import SmartPlaylist.Text.Utf8

/-!
# Percent encoding

Characters that may not stand in a part of a URL are written as their UTF-8 bytes,
each as a percent sign and two hexadecimal digits.  Which characters those are
depends on the part.

## Main definitions

* `Url.Percent.encode` — encodes the characters outside a part's set.
* `Url.Percent.decode` — the bytes of an encoded text.
* `Url.Percent.inUserInfo`, `inPath`, `inQuery`, … — what each part may hold.
-/

namespace SmartPlaylist.Url.Percent

/-- The upper-case hexadecimal digit. -/
def hexDigit (n : Nat) : Char := if n < 10 then Char.ofNat (48 + n) else Char.ofNat (55 + n)

/-- A byte as a percent sign and two digits. -/
def encodeByte (b : UInt8) : List Char := ['%', hexDigit (b.toNat / 16), hexDigit (b.toNat % 16)]

/-- Encodes the characters that are not allowed. -/
def encode (allowed : Char → Bool) (s : List Char) : List Char :=
  s.flatMap fun c => if allowed c then [c] else (String.utf8EncodeChar c).flatMap encodeByte

/-- The bytes of an encoded text.  A percent sign without two digits after it stands for itself. -/
def decode : List Char → List UInt8
  | '%' :: a :: b :: rest =>
    match Text.hexValue? a, Text.hexValue? b with
    | some x, some y => (x * 16 + y).toUInt8 :: decode rest
    | _, _ => '%'.toNat.toUInt8 :: decode (a :: b :: rest)
  | c :: rest => String.utf8EncodeChar c ++ decode rest
  | [] => []

/-! ### What the parts of a URL may hold -/

/-- Printable ASCII. -/
def isPrintable (c : Char) : Bool := 0x20 ≤ c.toNat && c.toNat ≤ 0x7E

/-- Any of the characters except those given. -/
def printableExcept (refused : String) (c : Char) : Bool := isPrintable c && !refused.contains c

/-- What a fragment may hold. -/
def inFragment : Char → Bool := printableExcept " \"<>`"

/-- What a query may hold. -/
def inQuery : Char → Bool := printableExcept " \"#<>"

/-- What the query of a special scheme may hold. -/
def inSpecialQuery : Char → Bool := printableExcept " \"#<>'"

/-- What a path may hold. -/
def inPath : Char → Bool := printableExcept " \"<>`#?\x7b\x7d"

/-- What a user name or password may hold. -/
def inUserInfo : Char → Bool := printableExcept " \"<>`#?\x7b\x7d/:;=@[\\]^|"

end SmartPlaylist.Url.Percent

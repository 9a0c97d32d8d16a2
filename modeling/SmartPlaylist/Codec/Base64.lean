/-!
# Base 64

Bytes as text in one of two alphabets of 64 characters, which differ in the last
two.  Three bytes become four characters, and padding fills the last group.
Reading accepts canonical text only: complete groups, padding only at the end, and
no stray bits before it.

## Main definitions

* `Base64.Alphabet` — the standard and the URL-safe one.
* `Base64.encode`, `Base64.encodeUnpadded` — bytes to text.
* `Base64.decode` — text to bytes.
-/

namespace SmartPlaylist.Base64

/-- The two sets of characters. -/
inductive Alphabet where
  | standard
  | urlSafe
  deriving DecidableEq, Repr

/-- The character of the value 62. -/
def Alphabet.char62 : Alphabet → Char
  | .standard => '+'
  | .urlSafe => '-'

/-- The character of the value 63. -/
def Alphabet.char63 : Alphabet → Char
  | .standard => '/'
  | .urlSafe => '_'

/-- The character of a value below 64. -/
def digit (a : Alphabet) (n : Nat) : Char :=
  if n < 26 then Char.ofNat ('A'.toNat + n)
  else if n < 52 then Char.ofNat ('a'.toNat + (n - 26))
  else if n < 62 then Char.ofNat ('0'.toNat + (n - 52))
  else if n = 62 then a.char62
  else a.char63

/-- The value of a character of the alphabet. -/
def value? (a : Alphabet) (c : Char) : Option Nat :=
  if 'A' ≤ c ∧ c ≤ 'Z' then some (c.toNat - 'A'.toNat)
  else if 'a' ≤ c ∧ c ≤ 'z' then some (c.toNat - 'a'.toNat + 26)
  else if '0' ≤ c ∧ c ≤ '9' then some (c.toNat - '0'.toNat + 52)
  else if c = a.char62 then some 62
  else if c = a.char63 then some 63
  else none

/-- The four characters of three bytes. -/
def group (a : Alphabet) (x y z : Nat) : List Char :=
  [digit a (x / 4), digit a (x % 4 * 16 + y / 16), digit a (y % 16 * 4 + z / 64), digit a (z % 64)]

/-- The text of bytes, with `padding` characters for what the last group lacks. -/
def encodeChars (a : Alphabet) (padding : List Char) : List UInt8 → List Char
  | [] => []
  | [x] => (group a x.toNat 0 0).take 2 ++ padding ++ padding
  | [x, y] => (group a x.toNat y.toNat 0).take 3 ++ padding
  | x :: y :: z :: rest => group a x.toNat y.toNat z.toNat ++ encodeChars a padding rest

/-- The text of bytes. -/
def encode (a : Alphabet) (bytes : List UInt8) : String :=
  String.ofList (encodeChars a ['='] bytes)

/-- The text of bytes without padding. -/
def encodeUnpadded (a : Alphabet) (bytes : List UInt8) : String :=
  String.ofList (encodeChars a [] bytes)

/-- The bytes of characters; `none` unless they are canonical. -/
def decodeChars (a : Alphabet) : List Char → Option (List UInt8)
  | [] => some []
  | [c, d, '=', '='] => do
    let c ← value? a c
    let d ← value? a d
    if d % 16 = 0 then some [(c * 4 + d / 16).toUInt8] else none
  | [c, d, e, '='] => do
    let c ← value? a c
    let d ← value? a d
    let e ← value? a e
    if e % 4 = 0 then some [(c * 4 + d / 16).toUInt8, (d % 16 * 16 + e / 4).toUInt8] else none
  | c :: d :: e :: f :: rest => do
    let c ← value? a c
    let d ← value? a d
    let e ← value? a e
    let f ← value? a f
    let others ← decodeChars a rest
    some ((c * 4 + d / 16).toUInt8 :: (d % 16 * 16 + e / 4).toUInt8 ::
      (e % 4 * 64 + f).toUInt8 :: others)
  | _ => none

/-- The bytes of a text; `none` unless it is canonical. -/
def decode (a : Alphabet) (s : String) : Option (List UInt8) := decodeChars a s.toList

end SmartPlaylist.Base64

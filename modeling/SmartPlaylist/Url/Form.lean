import SmartPlaylist.Url.Percent

/-!
# Form encoding

Name and value pairs as the text of a query or of a form: pairs are joined by `&`,
a name and its value by `=`, a space is a plus sign, and all but letters, digits
and `*-._` is percent-encoded.

## Main definitions

* `Url.Form.encode` — the text of pairs.
* `Url.Form.decode` — the pairs of a text.
-/

namespace SmartPlaylist.Url.Form

/-- Whether a character stands for itself. -/
def isPlain (c : Char) : Bool :=
  c.isAlphanum || c = '*' || c = '-' || c = '.' || c = '_'

/-- A character of a name or value. -/
def encodeChar (c : Char) : List Char :=
  if c = ' ' then ['+']
  else if isPlain c then [c]
  else (String.utf8EncodeChar c).flatMap Percent.encodeByte

/-- A name or value. -/
def encodeText (s : String) : List Char := s.toList.flatMap encodeChar

/-- A pair. -/
def encodePair (p : String × String) : List Char := encodeText p.1 ++ '=' :: encodeText p.2

/-- Pairs with `&` between them. -/
def encodePairs : List (String × String) → List Char
  | [] => []
  | [p] => encodePair p
  | p :: next :: rest => encodePair p ++ '&' :: encodePairs (next :: rest)

/-- The text of pairs. -/
def encode (pairs : List (String × String)) : String := String.ofList (encodePairs pairs)

/-- A text cut at every place of a character. -/
def cutAt (separator : Char) : List Char → List (List Char)
  | [] => [[]]
  | c :: rest =>
    if c = separator then [] :: cutAt separator rest
    else
      match cutAt separator rest with
      | part :: others => (c :: part) :: others
      | [] => [[c]]

/-- A name or value from its encoded text. -/
def decodeText (s : List Char) : String :=
  Text.ofUtf8 (Percent.decode (s.map fun c => if c = '+' then ' ' else c))

/-- A pair from its encoded text; without `=`, the value is empty. -/
def decodePair (s : List Char) : String × String :=
  (decodeText (s.takeWhile (· ≠ '=')), decodeText ((s.dropWhile (· ≠ '=')).drop 1))

/-- The pairs of a text; empty parts are skipped. -/
def decode (s : String) : List (String × String) :=
  ((cutAt '&' s.toList).filter fun part => !part.isEmpty).map decodePair

end SmartPlaylist.Url.Form

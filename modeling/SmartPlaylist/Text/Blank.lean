/-!
# Blank characters and trimming

Settings, keys and stored blobs are compared after their surrounding blanks are
dropped.  A blank is a character with Unicode's `White_Space` property; the
zero-width space and the byte order mark are not blanks.

## Main definitions

* `isBlank` — membership in the property.
* `trim`, `trimEnd`, `trimStart` — a text without its surrounding blanks.
* `isBlankText` — nothing but blanks.
-/

namespace SmartPlaylist.Text

/-- The characters with the `White_Space` property: the ASCII spacing characters, the next-line
and no-break characters, and the spaces of the general punctuation and ideographic blocks. -/
def isBlank (c : Char) : Bool :=
  let n := c.toNat
  (9 ≤ n && n ≤ 13) || n == 0x20 || n == 0x85 || n == 0xA0 || n == 0x1680 ||
    (0x2000 ≤ n && n ≤ 0x200A) || n == 0x2028 || n == 0x2029 || n == 0x202F ||
    n == 0x205F || n == 0x3000

/-- The text without its leading blanks. -/
def trimStart (s : String) : String := String.ofList (s.toList.dropWhile isBlank)

/-- The text without its trailing blanks. -/
def trimEnd (s : String) : String :=
  String.ofList (s.toList.reverse.dropWhile isBlank).reverse

/-- The text without the blanks on either side. -/
def trim (s : String) : String := trimEnd (trimStart s)

/-- Whether a text holds nothing but blanks; the empty text does. -/
def isBlankText (s : String) : Bool := s.toList.all isBlank

end SmartPlaylist.Text

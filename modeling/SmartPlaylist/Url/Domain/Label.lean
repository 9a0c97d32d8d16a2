import SmartPlaylist.Text.Canonical.Composed
import SmartPlaylist.Url.Domain.Joiner
import SmartPlaylist.Url.Domain.Mapping
import SmartPlaylist.Url.Punycode

/-!
# Labels

A label of a domain has a form in any script and one in ASCII, which begins with
four characters of its own.  A label may be given in either form, but in the ASCII
form only if it is just what the other form is written as.

## Main definitions

* `Url.Domain.isForbidden` — the characters of ASCII that no label holds.
* `Url.Domain.unicodeLabel?` — the form of a label in its own script.
* `Url.Domain.asciiLabel` — its form in ASCII.
-/

namespace SmartPlaylist.Url.Domain

open SmartPlaylist.Text

/-- The characters of ASCII that no label holds. -/
def isForbidden (c : Char) : Bool :=
  c.toNat ≤ 0x20 || c.toNat = 0x7F || "%#/:<>?@[\\]^|".contains c

/-- What the ASCII form of a label with other characters begins with. -/
def asciiMark : List Char := ['x', 'n', '-', '-']

/-- How many characters the ASCII form of a label may have after its mark. -/
def asciiLimit : Nat := 2000

/-- How many characters a label may have that has to be written in ASCII. -/
def unicodeLimit : Nat := 1000

/-- Whether the text consists of ASCII characters. -/
def isAscii (cs : List Char) : Bool := cs.all fun c => c.toNat < 0x80

/-- The label of an ASCII form, given without its mark.  It must be in its usual characters and its
composed form already. -/
def ofAscii? (cs : List Char) : Option (List Char) := do
  if !isAscii cs || cs.getLast?.all (· = '-') || asciiLimit < cs.length then none
  let label ← Punycode.decode? cs
  if replace? label = some label && Canonical.compose label = label && !asciiMark.isPrefixOf label
  then some label
  else none

/-- Whether a label holds what a label may hold, where it may hold it. -/
def isLabel (label : List Char) : Bool :=
  !label.any isForbidden && !label.head?.any isMark && joinersFit label &&
    (isAscii label || label.length ≤ unicodeLimit)

/-- The label of a part of a domain that is in its usual characters and its composed form. -/
def unicodeLabel? (part : List Char) : Option (List Char) := do
  let label ← if asciiMark.isPrefixOf part then ofAscii? (part.drop asciiMark.length) else some part
  if isLabel label then some label else none

/-- The form of a label in ASCII. -/
def asciiLabel (label : List Char) : List Char :=
  if isAscii label then label else asciiMark ++ Punycode.encode label

end SmartPlaylist.Url.Domain

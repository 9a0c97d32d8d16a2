import SmartPlaylist.Url.Domain.Direction
import SmartPlaylist.Url.Domain.Label
import SmartPlaylist.Url.Form

/-!
# Domains in ASCII

A domain is a row of labels with full stops between them.  However it is written,
it has one form in ASCII, by which it is looked up: its characters are replaced
by the usual ones, the text is composed, and each label is written in ASCII.

## Main definitions

* `Url.Domain.labels?` — the labels of a domain, each in its own script.
* `Url.Domain.toAscii?` — the form of a domain in ASCII.
-/

namespace SmartPlaylist.Url.Domain

open SmartPlaylist.Text

/-- The directions of the characters of a label. -/
def directions (label : List Char) : List Direction := label.map Direction.of

/-- Whether the labels may stand next to each other: either none of them has a character that runs
from right to left, or each of them that holds anything keeps its characters together. -/
def directionsFit (labels : List (List Char)) : Bool :=
  !labels.any (fun label => (directions label).any Direction.isRightToLeft) ||
    labels.all fun label => Direction.keepsTogether (directions label)

/-- The labels of a domain. -/
def labels? (domain : List Char) : Option (List (List Char)) := do
  let usual ← replace? domain
  let labels ← (Form.cutAt '.' (Canonical.compose usual)).mapM unicodeLabel?
  if directionsFit labels then some labels else none

/-- The form of a domain in ASCII. -/
def toAscii? (domain : List Char) : Option (List Char) :=
  (labels? domain).map fun labels => ['.'].intercalate (labels.map asciiLabel)

end SmartPlaylist.Url.Domain

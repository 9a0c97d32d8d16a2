import SmartPlaylist.Text.Canonical.Decomposition
import SmartPlaylist.Text.Canonical.Order

/-!
# The composed form of a text

Texts that differ only in how their characters are put together have one composed
form: all characters are taken apart, the marks are put in order, and then each
mark is joined with the character that it stands on, where the two have a
character of their own and no mark of the same class stands between them.

## Main definitions

* `Canonical.compose` — the composed form.
-/

namespace SmartPlaylist.Text.Canonical

/-- A text that is being composed. -/
structure Composing where
  /-- What comes before the last base, in reverse. -/
  before : List Char
  /-- The last character of class zero. -/
  base : Option Char
  /-- The marks after it that were not joined with it, in reverse. -/
  marks : List Char

namespace Composing

/-- Nothing yet. -/
def empty : Composing := ⟨[], none, []⟩

/-- Whether a mark stands in the way of this character and the base. -/
def isBlocked (t : Composing) (c : Char) : Bool :=
  match t.marks with
  | [] => false
  | last :: _ => classOf c ≤ classOf last

/-- All of the text, in reverse. -/
def reversed (t : Composing) : List Char := t.marks ++ t.base.toList ++ t.before

/-- Adds a character. -/
def add (t : Composing) (c : Char) : Composing :=
  match t.base with
  | none => if classOf c = 0 then { t with base := some c } else { t with before := c :: t.before }
  | some base =>
    match if t.isBlocked c then none else join? base c with
    | some joined => { t with base := some joined }
    | none =>
      if classOf c = 0 then ⟨t.reversed, some c, []⟩ else { t with marks := c :: t.marks }

end Composing

/-- The composed form of a text. -/
def compose (cs : List Char) : List Char :=
  ((order (cs.flatMap parts)).foldl Composing.add Composing.empty).reversed.reverse

end SmartPlaylist.Text.Canonical

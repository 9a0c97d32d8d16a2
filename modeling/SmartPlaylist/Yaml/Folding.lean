import SmartPlaylist.Yaml.Cursor

/-!
# YAML: gaps and folding

Between two words of a plain or quoted text stands a gap.  A gap within a line
is kept.  In a gap that spans lines the blanks go, and its first line break is
folded: into a space if it is the only one, into nothing if more follow.

## Main definitions

* `Gap` — what stands between two words.
* `Gap.text` — what it reads as.
* `gap` — reads a gap.
-/

namespace SmartPlaylist.Yaml

/-- What stands between two words. -/
structure Gap where
  /-- The blanks of a gap within a line. -/
  blanks : List Char
  /-- Whether the gap spans lines. -/
  broken : Bool
  /-- The first line break; `none` also when a backslash hid it. -/
  first : Option Char
  /-- The line breaks after the first. -/
  further : List Char
  deriving Inhabited

namespace Gap

/-- The gap before anything is read. -/
def empty : Gap := ⟨[], false, none, []⟩

/-- The gap after a hidden line break. -/
def hidden : Gap := ⟨[], true, none, []⟩

/-- What the gap reads as. -/
def text (g : Gap) : List Char :=
  if g.broken then
    match g.first with
    | some '\n' => if g.further.isEmpty then [' '] else g.further
    | some b => b :: g.further
    | none => g.further
  else g.blanks

/-- The gap with one more blank. -/
def addBlank (b : Char) (g : Gap) : Gap :=
  if g.broken then g else { g with blanks := g.blanks ++ [b] }

/-- The gap with one more line break. -/
def addBreak (b : Char) (g : Gap) : Gap :=
  if g.broken then { g with further := g.further ++ [b] }
  else { g with broken := true, first := some b, blanks := [] }

end Gap

/-- Reads the rest of a gap.  A tab may not stand left of the column `indent` on a line that the
gap begins.  The fuel bounds the number of characters. -/
def gap (indent : Nat) : Nat → Gap → Cursor → Option (Gap × Cursor)
  | 0, g, c => some (g, c)
  | fuel + 1, g, c =>
    match c.lineBreak? with
    | some (b, c) => gap indent fuel (g.addBreak b) c
    | none =>
      match c.rest with
      | b :: _ =>
        if isBlank b then
          if g.broken && c.column < indent && b = '\t' then none
          else gap indent fuel (g.addBlank b) (c.advance 1)
        else some (g, c)
      | [] => some (g, c)

end SmartPlaylist.Yaml

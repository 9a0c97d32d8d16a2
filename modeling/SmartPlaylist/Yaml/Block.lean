import SmartPlaylist.Yaml.Cursor

/-!
# YAML: block texts

A block text consists of the indented lines after its indicator.  A literal one
keeps its line breaks; in a folded one a single line break between two lines
that begin with no blank becomes a space.  The line breaks at the end are
clipped to one, dropped or kept.

## Main definitions

* `Chomping` — what becomes of the line breaks at the end.
* `blockHeader` — reads what follows the indicator on its line.
* `block` — reads a block text.
-/

namespace SmartPlaylist.Yaml

/-- What becomes of the line breaks at the end of a block text. -/
inductive Chomping where
  | clip
  | strip
  | keep
  deriving DecidableEq, Repr

/-- Reads a digit that gives the indentation; zero is refused. -/
def indentDigit (cs : List Char) : Option (Nat × List Char) :=
  match cs with
  | c :: rest =>
    if c.isDigit then if c = '0' then none else some (c.toNat - '0'.toNat, rest)
    else some (0, cs)
  | [] => some (0, [])

/-- Reads the sign that gives the chomping. -/
def chompingSign : List Char → Chomping × List Char
  | '+' :: rest => (.keep, rest)
  | '-' :: rest => (.strip, rest)
  | rest => (.clip, rest)

/-- Reads the chomping and the indentation, in either order; an indentation of zero means that none
was given. -/
def blockHeader (cs : List Char) : Option (Chomping × Nat × List Char) := do
  match chompingSign cs with
  | (.clip, cs) =>
    let (indent, rest) ← indentDigit cs
    if indent = 0 then some (.clip, 0, rest)
    else
      let (chomping, rest) := chompingSign rest
      some (chomping, indent, rest)
  | (chomping, rest) =>
    let (indent, rest) ← indentDigit rest
    some (chomping, indent, rest)

/-- Reads empty lines and the indentation of the line after them: the line breaks, the greatest
column reached, and the place.  With an indentation given, no line is entered farther than that.
A tab may not stand in the indentation.  The fuel bounds the number of lines. -/
def emptyLines (indent : Option Nat) : Nat → Nat → Cursor → Option (List Char × Nat × Cursor)
  | 0, greatest, c => some ([], greatest, c)
  | fuel + 1, greatest, c => do
    let spaces := (c.rest.takeWhile (· = ' ')).length
    let c := c.advance (match indent with
      | some n => min spaces (n - c.column)
      | none => spaces)
    let greatest := max greatest c.column
    let inside := match indent with
      | some n => decide (n ≤ c.column)
      | none => false
    if !inside && c.rest.head? = some '\t' then none
    else
      match c.lineBreak? with
      | none => some ([], greatest, c)
      | some (b, c) =>
        let (breaks, greatest, c) ← emptyLines indent fuel greatest c
        some (b :: breaks, greatest, c)

/-- What stands before a line of a block text: the line break that ends the line before it, the
empty lines between them, and whether the line before it began with a blank. -/
structure Joint where
  leading : List Char
  empty : List Char
  afterBlank : Bool

/-- How a joint reads before a line that begins with a blank or not. -/
def Joint.text (literal : Bool) (beforeBlank : Bool) (j : Joint) : List Char :=
  if !literal && j.leading = ['\n'] && !j.afterBlank && !beforeBlank then
    if j.empty.isEmpty then [' '] else j.empty
  else j.leading ++ j.empty

/-- Reads the lines at the column `indent`; gives their text and the joint after the last one.  The
fuel bounds the number of lines. -/
def blockLines (literal : Bool) (indent : Nat) :
    Nat → Joint → Cursor → Option (List Char × Joint × Cursor)
  | 0, j, c => some ([], j, c)
  | fuel + 1, j, c => do
    match c.rest with
    | [] => some ([], j, c)
    | first :: _ =>
      if c.column ≠ indent then some ([], j, c)
      else
        let (line, c) := c.span fun b => !isBreak b
        let (leading, c) := match c.lineBreak? with
          | some (b, c) => ([b], c)
          | none => ([], c)
        let (breaks, _, c) ← emptyLines (some indent) (c.rest.length + 1) 0 c
        let (text, last, c) ← blockLines literal indent fuel ⟨leading, breaks, isBlank first⟩ c
        some (j.text literal (isBlank first) ++ line ++ text, last, c)

/-- Reads a block text, of which the indicator comes first, inside a block at the column `outer`,
which is `-1` outside all blocks. -/
def block (literal : Bool) (outer : Int) (c : Cursor) : Option (String × Cursor) := do
  let (chomping, given, rest) ← blockHeader (c.rest.drop 1)
  let c ← (c.advance (c.rest.length - rest.length)).restOfLine
  let base := (outer + 1).toNat
  let known := if given = 0 then none else some ((max outer 0).toNat + given)
  let (breaks, greatest, c) ← emptyLines known (c.rest.length + 1) 0 c
  let indent := known.getD (max (max greatest base) 1)
  let (text, last, c) ← blockLines literal indent (c.rest.length + 1) ⟨[], breaks, false⟩ c
  let tail := match chomping with
    | .strip => []
    | .clip => last.leading
    | .keep => last.leading ++ last.empty
  some (String.ofList (text ++ tail), c)

end SmartPlaylist.Yaml

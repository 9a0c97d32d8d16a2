/-!
# YAML: characters and places

Five characters break lines; a carriage return and the line feed after it break
one line together.  A place in a text is what follows it together with its line,
its column and its distance from the start, because indentation and the length
of keys decide how a text is divided.  Columns count characters, distances the
bytes that hold them.

## Main definitions

* `isBreak`, `isBlank`, `endsWord` — the classes of characters.
* `isAllowed` — the characters a text may hold at all.
* `Cursor` — a place in a text.
-/

namespace SmartPlaylist.Yaml

/-- The characters that break lines. -/
def isBreak (c : Char) : Bool :=
  c = '\n' || c = '\r' || c = '\u0085' || c = '\u2028' || c = '\u2029'

/-- The mark that may begin a line and then does not count, but for its column. -/
def byteOrderMark : Char := '\uFEFF'

/-- The blanks within a line. -/
def isBlank (c : Char) : Bool := c = ' ' || c = '\t'

/-- The characters of anchors and of the names of directives and tags. -/
def isWord (c : Char) : Bool := c.isAlphanum || c = '_' || c = '-'

/-- Whether a blank, a line break or the end of the text comes next. -/
def endsWord : List Char → Bool
  | [] => true
  | c :: _ => isBlank c || isBreak c

/-- Whether a line break or the end of the text comes next. -/
def endsLine : List Char → Bool
  | [] => true
  | c :: _ => isBreak c

/-- The characters that may stand in a text: no control characters but the tab and the line
breaks, and not the last two of the first plane. -/
def isAllowed (c : Char) : Bool :=
  let n := c.toNat
  n = 0x09 || n = 0x0A || n = 0x0D || (0x20 ≤ n && n ≤ 0x7E) || n = 0x85 ||
    (0xA0 ≤ n && n ≤ 0xD7FF) || (0xE000 ≤ n && n ≤ 0xFFFD) || 0x10000 ≤ n

/-- A place in a text. -/
structure Cursor where
  /-- What follows. -/
  rest : List Char
  /-- How many bytes came before. -/
  index : Nat
  line : Nat
  /-- How many characters of the line came before. -/
  column : Nat
  deriving Inhabited

namespace Cursor

/-- How many bytes hold the characters. -/
def width (cs : List Char) : Nat := cs.foldl (fun n c => n + c.utf8Size) 0

/-- The start of a text. -/
def start (cs : List Char) : Cursor := ⟨cs, 0, 0, 0⟩

/-- The place after `n` more characters of the same line. -/
def advance (n : Nat) (c : Cursor) : Cursor :=
  ⟨c.rest.drop n, c.index + width (c.rest.take n), c.line, c.column + n⟩

/-- The characters of the same line that satisfy `p`, and the place after them. -/
def span (p : Char → Bool) (c : Cursor) : List Char × Cursor :=
  let taken := c.rest.takeWhile p
  (taken, c.advance taken.length)

/-- The place after the characters of the same line that satisfy `p`. -/
def skip (p : Char → Bool) (c : Cursor) : Cursor := (c.span p).2

/-- The line break that comes next, as it reads in a text, and the place after it: all but the
line and paragraph separators read as line feeds. -/
def lineBreak? (c : Cursor) : Option (Char × Cursor) :=
  match c.rest with
  | '\r' :: '\n' :: rest => some ('\n', ⟨rest, c.index + 2, c.line + 1, 0⟩)
  | b :: rest =>
    if isBreak b then
      some (if b = '\u2028' || b = '\u2029' then b else '\n',
        ⟨rest, c.index + b.utf8Size, c.line + 1, 0⟩)
    else none
  | [] => none

/-- The place after the line break that comes next, if one does. -/
def skipBreak (c : Cursor) : Cursor := ((lineBreak? c).map Prod.snd).getD c

/-- Skips blanks and a comment; `none` unless the line ends there.  The line break is skipped
too. -/
def restOfLine (c : Cursor) : Option Cursor :=
  let c := c.skip isBlank
  let c := if c.rest.head? = some '#' then c.skip (fun b => !isBreak b) else c
  if endsLine c.rest then some c.skipBreak else none

/-- Whether the mark of a document's start or end comes next: three hyphens or points that begin a
line and are followed by a blank. -/
def atDocumentMark (c : Cursor) : Bool :=
  c.column = 0 &&
    match c.rest with
    | '-' :: '-' :: '-' :: rest => endsWord rest
    | '.' :: '.' :: '.' :: rest => endsWord rest
    | _ => false

end Cursor

end SmartPlaylist.Yaml

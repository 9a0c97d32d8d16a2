import SmartPlaylist.Text.Hexadecimal
import SmartPlaylist.Yaml.Folding

/-!
# YAML: quoted texts

Between single quotes only the quote itself is written twice; between double
quotes a backslash escapes.  A text may span lines, which fold, but no line of it
may look like the start or end of a document.

## Main definitions

* `quoted` — reads a text between quotes.
-/

namespace SmartPlaylist.Yaml

/-- The character that a one-letter escape stands for. -/
def escaped? : Char → Option Char
  | '0' => some '\x00'
  | 'a' => some '\x07'
  | 'b' => some '\x08'
  | 't' => some '\t'
  | '\t' => some '\t'
  | 'n' => some '\n'
  | 'v' => some '\x0b'
  | 'f' => some '\x0c'
  | 'r' => some '\r'
  | 'e' => some '\x1b'
  | ' ' => some ' '
  | '"' => some '"'
  | '/' => some '/'
  | '\\' => some '\\'
  | 'N' => some '\u0085'
  | '_' => some '\u00a0'
  | 'L' => some '\u2028'
  | 'P' => some '\u2029'
  | _ => none

/-- How many hexadecimal digits follow the letter of an escape by number. -/
def escapeWidth? : Char → Option Nat
  | 'x' => some 2
  | 'u' => some 4
  | 'U' => some 8
  | _ => none

/-- The character with the number that the first `width` characters give in base 16. -/
def numbered? (width : Nat) (cs : List Char) : Option Char := do
  let values ← (cs.take width).mapM Text.hexValue?
  let n := values.foldl (fun n d => n * 16 + d) 0
  if values.length = width then
    if h : n.isValidChar then some (Char.ofNatAux n h) else none
  else none

/-- A part of a word: some characters and how many characters they are written with. -/
structure Piece where
  text : List Char
  width : Nat

/-- Reads an escape, of which the backslash comes first. -/
def escape (cs : List Char) : Option Piece :=
  match cs with
  | _ :: letter :: rest =>
    match escapeWidth? letter with
    | some width => (numbered? width rest).map fun c => ⟨[c], 2 + width⟩
    | none => (escaped? letter).map fun c => ⟨[c], 2⟩
  | _ => none

/-- Reads a word of a quoted text: up to a blank, a line break, the closing quote, or a backslash
that hides a line break.  The fuel bounds the number of characters. -/
def quotedWord (single : Bool) : Nat → List Char → Option Piece
  | 0, _ => none
  | _, [] => some ⟨[], 0⟩
  | fuel + 1, c :: rest => do
    if isBlank c || isBreak c then some ⟨[], 0⟩
    else if single && c = '\'' then
      match rest with
      | '\'' :: rest =>
        let more ← quotedWord single fuel rest
        some ⟨'\'' :: more.text, 2 + more.width⟩
      | _ => some ⟨[], 0⟩
    else if !single && c = '"' then some ⟨[], 0⟩
    else if !single && c = '\\' then
      if (rest.head?.map isBreak).getD false then some ⟨[], 0⟩
      else
        let piece ← escape (c :: rest)
        let more ← quotedWord single fuel (rest.drop (piece.width - 1))
        some ⟨piece.text ++ more.text, piece.width + more.width⟩
    else
      let more ← quotedWord single fuel rest
      some ⟨c :: more.text, 1 + more.width⟩

/-- Reads words and gaps up to the closing quote.  The fuel bounds the number of words. -/
def quotedBody (single : Bool) : Nat → Cursor → Option (List Char × Cursor)
  | 0, _ => none
  | fuel + 1, c => do
    if c.atDocumentMark then none
    else
      let word ← quotedWord single (c.rest.length + 1) c.rest
      let c := c.advance word.width
      match c.rest with
      | [] => none
      | d :: _ =>
        if d = (if single then '\'' else '"') then some (word.text, c.advance 1)
        else
          let (before, c) := if d = '\\' then (Gap.hidden, (c.advance 1).skipBreak)
            else (Gap.empty, c)
          let (g, c) ← gap 0 (c.rest.length + 1) before c
          let (text, c) ← quotedBody single fuel c
          some (word.text ++ g.text ++ text, c)

/-- Reads a text between quotes, of which the opening one comes first. -/
def quoted (single : Bool) (c : Cursor) : Option (String × Cursor) := do
  let (text, c) ← quotedBody single (c.rest.length + 1) (c.advance 1)
  some (String.ofList text, c)

end SmartPlaylist.Yaml

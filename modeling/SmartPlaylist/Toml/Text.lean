import SmartPlaylist.Text.Hexadecimal

/-!
# TOML: blanks, texts and keys

A text is basic, with escapes, or literal, without any; either kind may span
lines between threefold quotes, and then a line break right after the opening
quotes does not count and every line break reads as a line feed.

## Main definitions

* `lineEnd` — what may follow a statement on its line.
* `skipSpace` — what may stand between the items of an array.
* `text`, `key` — texts and dotted keys.
-/

namespace SmartPlaylist.Toml

/-- A reader takes a value off the front of the characters, or refuses them. -/
abbrev Reader (α : Type) := List Char → Option (α × List Char)

/-! ### Blanks and comments -/

/-- The blanks within a line. -/
def isBlank (c : Char) : Bool := c = ' ' || c = '\t'

/-- The characters of comments and literal texts: no control character but the tab. -/
def isPrintable (c : Char) : Bool := c = '\t' || (0x20 ≤ c.toNat && c.toNat ≠ 0x7F)

/-- Takes a line break off the front. -/
def lineBreak : List Char → Option (List Char)
  | '\n' :: rest => some rest
  | '\r' :: '\n' :: rest => some rest
  | _ => none

/-- Skips blanks and a comment, which must then be followed by a line break or the end. -/
def lineEnd (cs : List Char) : Option (List Char) :=
  let rest := match cs.dropWhile isBlank with
    | '#' :: rest => rest.dropWhile isPrintable
    | rest => rest
  if rest.isEmpty then some [] else lineBreak rest

/-- Skips blanks, line breaks and comments, each ended by a line break.  The fuel bounds the
number of lines. -/
def skipSpaceWithin : Nat → List Char → Option (List Char)
  | 0, cs => some cs
  | fuel + 1, cs =>
    match cs.dropWhile isBlank with
    | '#' :: rest => (lineBreak (rest.dropWhile isPrintable)).bind (skipSpaceWithin fuel)
    | '\n' :: rest => skipSpaceWithin fuel rest
    | '\r' :: rest => (lineBreak ('\r' :: rest)).bind (skipSpaceWithin fuel)
    | rest => some rest

/-- Skips blanks, line breaks and comments. -/
def skipSpace (cs : List Char) : Option (List Char) := skipSpaceWithin (cs.length + 1) cs

/-- Drops blanks and line breaks. -/
def dropLines : List Char → List Char
  | '\r' :: '\n' :: rest => dropLines rest
  | '\n' :: rest => dropLines rest
  | ' ' :: rest => dropLines rest
  | '\t' :: rest => dropLines rest
  | rest => rest

/-! ### Texts -/

/-- The character with that number, given in hexadecimal digits; surrogates are none. -/
def numbered? (digits : List Char) : Option Char := do
  let values ← digits.mapM Text.hexValue?
  let n := values.foldl (fun n d => n * 16 + d) 0
  if h : n.isValidChar then some (Char.ofNatAux n h) else none

/-- The character that a one-letter escape stands for. -/
def escaped? : Char → Option Char
  | 'b' => some '\x08'
  | 't' => some '\t'
  | 'n' => some '\n'
  | 'f' => some '\x0c'
  | 'r' => some '\r'
  | '"' => some '"'
  | '\\' => some '\\'
  | _ => none

/-- Reads an escape whose backslash has been read. -/
def escape : Reader Char
  | 'u' :: rest => (numbered? (rest.take 4)).bind fun c =>
      if rest.length < 4 then none else some (c, rest.drop 4)
  | 'U' :: rest => (numbered? (rest.take 8)).bind fun c =>
      if rest.length < 8 then none else some (c, rest.drop 8)
  | c :: rest => (escaped? c).map (·, rest)
  | [] => none

/-- Reads the rest of a basic text on one line.  The fuel bounds the number of characters. -/
def basicBody : Nat → Reader (List Char)
  | 0, _ => none
  | _, [] => none
  | _ + 1, '"' :: rest => some ([], rest)
  | fuel + 1, '\\' :: rest => do
    let (c, rest) ← escape rest
    let (cs, rest) ← basicBody fuel rest
    some (c :: cs, rest)
  | fuel + 1, c :: rest => do
    if isPrintable c then
      let (cs, rest) ← basicBody fuel rest
      some (c :: cs, rest)
    else none

/-- Reads the rest of a literal text on one line. -/
def literalBody : Reader (List Char)
  | [] => none
  | '\'' :: rest => some ([], rest)
  | c :: rest =>
    if isPrintable c then (literalBody rest).map fun (cs, rest) => (c :: cs, rest) else none

/-- Reads the rest of a text that spans lines and ends at three of the quotes; up to two more
quotes before those belong to the text.  Escapes are read when `escapes`, and then a backslash
before a line break hides it and all blanks and line breaks after it. -/
def linesBody (quote : Char) (escapes : Bool) : Nat → Reader (List Char)
  | 0, _ => none
  | _, [] => none
  | fuel + 1, c :: rest =>
    if c = quote then
      let run := (c :: rest).takeWhile (· = quote)
      let after := (c :: rest).dropWhile (· = quote)
      if run.length < 3 then
        (linesBody quote escapes fuel after).map fun (cs, rest) => (run ++ cs, rest)
      else
        let inside := min (run.length - 3) 2
        some (run.take inside, run.drop (inside + 3) ++ after)
    else if escapes && c = '\\' then
      match lineBreak (rest.dropWhile isBlank) with
      | some rest =>
        linesBody quote escapes fuel (dropLines rest)
      | none => do
        let (e, rest) ← escape rest
        let (cs, rest) ← linesBody quote escapes fuel rest
        some (e :: cs, rest)
    else
      match lineBreak (c :: rest) with
      | some rest =>
        (linesBody quote escapes fuel rest).map fun (cs, rest) => ('\n' :: cs, rest)
      | none =>
        if isPrintable c then
          (linesBody quote escapes fuel rest).map fun (cs, rest) => (c :: cs, rest)
        else none

/-- Reads a text that spans lines, after its opening quotes. -/
def lines (quote : Char) (escapes : Bool) (cs : List Char) : Option (List Char × List Char) :=
  let cs := (lineBreak cs).getD cs
  linesBody quote escapes (cs.length + 1) cs

/-- Reads a text on one line. -/
def lineText : Reader String
  | '"' :: rest => (basicBody (rest.length + 1) rest).map fun (cs, rest) => (String.ofList cs, rest)
  | '\'' :: rest => (literalBody rest).map fun (cs, rest) => (String.ofList cs, rest)
  | _ => none

/-- Reads a text of any kind. -/
def text : Reader String
  | '"' :: '"' :: '"' :: rest =>
    (lines '"' true rest).map fun (cs, rest) => (String.ofList cs, rest)
  | '\'' :: '\'' :: '\'' :: rest =>
    (lines '\'' false rest).map fun (cs, rest) => (String.ofList cs, rest)
  | cs => lineText cs

/-! ### Keys -/

/-- The characters of a key without quotes. -/
def isBare (c : Char) : Bool := c.isAlphanum || c = '-' || c = '_'

/-- Reads one part of a key. -/
def simpleKey (cs : List Char) : Option (String × List Char) :=
  match cs with
  | '"' :: _ => lineText cs
  | '\'' :: _ => lineText cs
  | _ =>
    let (name, rest) := cs.span isBare
    if name.isEmpty then none else some (String.ofList name, rest)

/-- Reads the parts of a key, with points between them and blanks around each. -/
def keyParts : Nat → Reader (List String)
  | 0, _ => none
  | fuel + 1, cs => do
    let (first, rest) ← simpleKey (cs.dropWhile isBlank)
    match rest.dropWhile isBlank with
    | '.' :: rest =>
      let (others, rest) ← keyParts fuel rest
      some (first :: others, rest)
    | rest => some ([first], rest)

/-- Tables, arrays and keys nest less deep than this. -/
def nestingLimit : Nat := 80

/-- Reads a dotted key. -/
def key : Reader (List String) := keyParts (nestingLimit - 1)

end SmartPlaylist.Toml

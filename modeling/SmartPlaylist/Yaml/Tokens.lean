import SmartPlaylist.Yaml.Block
import SmartPlaylist.Yaml.Plain
import SmartPlaylist.Yaml.Quoted
import SmartPlaylist.Yaml.Tag
import SmartPlaylist.Yaml.Token

/-!
# YAML: a text as tokens

Tokens are read from left to right, but whether a node is a key shows only at
the colon after it.  So a place where a key may begin is remembered, and the
colon puts the key's token, and the start of a block mapping if one is needed,
back at that place.  Such a key must be on one line and at most 1024 bytes long;
one that begins a line of an open block mapping has to turn out a key.

## Main definitions

* `KeyStart` — a place where a key may begin.
* `Progress` — the tokens so far and what decides the next one.
* `Progress.next?` — reads one token.
* `tokens` — the tokens of a text.
-/

namespace SmartPlaylist.Yaml

/-- How many bytes a key without an indicator may span. -/
def keyLengthLimit : Nat := 1024

/-- A place where a key may begin. -/
structure KeyStart where
  /-- How many tokens stand before it. -/
  position : Nat
  /-- Whether anything but a key is refused there. -/
  required : Bool
  cursor : Cursor

/-- Whether a key that began there can no longer end at this place. -/
def KeyStart.isStale (k : KeyStart) (c : Cursor) : Bool :=
  k.cursor.line < c.line || k.cursor.index + keyLengthLimit < c.index

/-- The tokens so far and what decides the next one. -/
structure Progress where
  cursor : Cursor
  /-- The tokens read, the newest first. -/
  newest : List Token
  /-- How many tokens were read. -/
  count : Nat
  /-- The column of the innermost block, or `-1`. -/
  indent : Int
  /-- The columns of the blocks around it. -/
  outerIndents : List Int
  /-- Whether a key may begin at the next token. -/
  keyAllowed : Bool
  /-- Where a key may have begun in the innermost flow collection, or outside all. -/
  candidate : Option KeyStart
  /-- The same for the collections around it; as many as flow collections are open. -/
  outerCandidates : List (Option KeyStart)

namespace Progress

/-- Nothing read yet. -/
def start (cs : List Char) : Progress := ⟨Cursor.start cs, [], 0, -1, [], true, none, []⟩

/-- Whether a flow collection is open. -/
def inFlow (p : Progress) : Bool := !p.outerCandidates.isEmpty

/-- Adds a token after the others. -/
def push (t : Token) (p : Progress) : Progress :=
  { p with newest := t :: p.newest, count := p.count + 1 }

/-- Adds a token before the one at a position. -/
def insert (position : Nat) (t : Token) (p : Progress) : Progress :=
  { p with newest := p.newest.insertIdx (p.count - position) t, count := p.count + 1 }

/-- Goes on at another place. -/
def moveTo (c : Cursor) (p : Progress) : Progress := { p with cursor := c }

/-- Allows or forbids a key at the next token. -/
def allowKey (allowed : Bool) (p : Progress) : Progress := { p with keyAllowed := allowed }

/-! ### Blocks -/

/-- How many of the blocks end at a column: all that begin right of it. -/
def closedAt (column indent : Int) : List Int → Nat
  | [] => 0
  | outer :: rest => if column < indent then closedAt column outer rest + 1 else 0

/-- Ends one block. -/
def closeBlock (p : Progress) : Progress :=
  match p.outerIndents with
  | [] => p
  | outer :: rest => { p.push .blockEnd with indent := outer, outerIndents := rest }

/-- Ends the blocks that begin right of a column; flow collections ignore columns. -/
def closeBlocks (column : Int) (p : Progress) : Progress :=
  if p.inFlow then p
  else (closedAt column p.indent p.outerIndents).repeat closeBlock p

/-- Begins a block at a column, unless one begins there already. -/
def openBlock (column : Nat) (position : Nat) (t : Token) (p : Progress) : Progress :=
  if p.inFlow || column ≤ p.indent then p
  else { p.insert position t with indent := column, outerIndents := p.indent :: p.outerIndents }

/-! ### Keys -/

/-- Forgets where a key may have begun; refused if one had to. -/
def dropCandidate (p : Progress) : Option Progress :=
  match p.candidate with
  | some k => if k.required then none else some { p with candidate := none }
  | none => some p

/-- Remembers that a key may begin here, if it may. -/
def noteCandidate (p : Progress) : Option Progress :=
  if p.keyAllowed then do
    let required := !p.inFlow && p.indent = p.cursor.column
    let p ← p.dropCandidate
    some { p with candidate := some ⟨p.count, required, p.cursor⟩ }
  else some p

/-- Forgets one key that can no longer end here; refused if it had to. -/
def dropStale (c : Cursor) (candidate : Option KeyStart) : Option (Option KeyStart) :=
  match candidate with
  | some k => if !k.isStale c then some candidate else if k.required then none else some none
  | none => some none

/-- Forgets all keys that can no longer end here. -/
def dropStaleCandidates (p : Progress) : Option Progress := do
  let candidate ← dropStale p.cursor p.candidate
  let outer ← p.outerCandidates.mapM (dropStale p.cursor)
  some { p with candidate, outerCandidates := outer }

/-! ### Blanks -/

/-- Skips blanks, comments and line breaks.  Outside flow collections a new line may begin with a
key, and where a key may begin a tab is no blank.  The fuel bounds the number of lines. -/
def skipSpace : Nat → Progress → Progress
  | 0, p => p
  | fuel + 1, p =>
    let c := p.cursor
    let c := if c.column = 0 && c.rest.head? = some byteOrderMark then c.advance 1 else c
    let tabs := p.inFlow || !p.keyAllowed
    let c := c.skip fun b => b = ' ' || (tabs && b = '\t')
    let c := if c.rest.head? = some '#' then c.skip (fun b => !isBreak b) else c
    match c.lineBreak? with
    | some (_, c) => skipSpace fuel { p with cursor := c, keyAllowed := p.keyAllowed || !p.inFlow }
    | none => p.moveTo c

/-! ### The kinds of tokens -/

/-- Reads a directive. -/
def readDirective (p : Progress) : Option Progress := do
  let p ← (p.closeBlocks (-1)).dropCandidate
  let (d, c) ← directive p.cursor
  let t := match d with
    | .version major minor => Token.version major minor
    | .tagHandle handle beginning => Token.tagHandle handle beginning
  some ((p.push t).allowKey false |>.moveTo c)

/-- Reads the mark of a document's start or end. -/
def readDocumentMark (t : Token) (p : Progress) : Option Progress := do
  let p ← (p.closeBlocks (-1)).dropCandidate
  some ((p.push t).allowKey false |>.moveTo (p.cursor.advance 3))

/-- Reads an opening bracket. -/
def openFlow (t : Token) (p : Progress) : Option Progress := do
  let p ← p.noteCandidate
  let p := { p with outerCandidates := p.candidate :: p.outerCandidates, candidate := none }
  some ((p.push t).allowKey true |>.moveTo (p.cursor.advance 1))

/-- Reads a closing bracket. -/
def closeFlow (t : Token) (p : Progress) : Option Progress := do
  let p ← p.dropCandidate
  let p := match p.outerCandidates with
    | [] => p
    | candidate :: outer => { p with candidate, outerCandidates := outer }
  some ((p.push t).allowKey false |>.moveTo (p.cursor.advance 1))

/-- Reads a comma. -/
def readFlowEntry (p : Progress) : Option Progress := do
  let p ← p.dropCandidate
  some ((p.push .flowEntry).allowKey true |>.moveTo (p.cursor.advance 1))

/-- Reads the hyphen before an item. -/
def readBlockEntry (p : Progress) : Option Progress := do
  if !p.inFlow && !p.keyAllowed then none
  else
    let p ← (p.openBlock p.cursor.column p.count .blockSequenceStart).dropCandidate
    some ((p.push .blockEntry).allowKey true |>.moveTo (p.cursor.advance 1))

/-- Reads the question mark before a key. -/
def readKey (p : Progress) : Option Progress := do
  if !p.inFlow && !p.keyAllowed then none
  else
    let p ← (p.openBlock p.cursor.column p.count .blockMappingStart).dropCandidate
    some ((p.push .key).allowKey (!p.inFlow) |>.moveTo (p.cursor.advance 1))

/-- Reads the colon before a value. -/
def readValue (p : Progress) : Option Progress :=
  let next := p.cursor.advance 1
  match p.candidate with
  | some k =>
    let p := (p.insert k.position .key).openBlock k.cursor.column k.position .blockMappingStart
    some ({ p.push .value with candidate := none, keyAllowed := false }.moveTo next)
  | none =>
    if !p.inFlow && !p.keyAllowed then none
    else
      let p := p.openBlock p.cursor.column p.count .blockMappingStart
      some ((p.push .value).allowKey (!p.inFlow) |>.moveTo next)

/-- Reads an anchor or a second mention of one. -/
def readAnchor (token : String → Token) (p : Progress) : Option Progress := do
  let p ← p.noteCandidate
  let (name, c) ← anchorName p.cursor
  some ((p.push (token name)).allowKey false |>.moveTo c)

/-- Reads a tag. -/
def readTag (p : Progress) : Option Progress := do
  let p ← p.noteCandidate
  let (parts, c) ← tagToken p.inFlow p.cursor
  some ((p.push (.tag parts.handle parts.suffix)).allowKey false |>.moveTo c)

/-- Reads a block text. -/
def readBlockText (literal : Bool) (p : Progress) : Option Progress := do
  let p ← p.dropCandidate
  let (text, c) ← block literal p.indent p.cursor
  some ((p.push (.scalar text false)).allowKey true |>.moveTo c)

/-- Reads a quoted text. -/
def readQuotedText (single : Bool) (p : Progress) : Option Progress := do
  let p ← p.noteCandidate
  let (text, c) ← quoted single p.cursor
  some ((p.push (.scalar text false)).allowKey false |>.moveTo c)

/-- Reads a plain text; a key may follow one that ended on a later line. -/
def readPlainText (p : Progress) : Option Progress := do
  let p ← p.noteCandidate
  let (text, c, broken) ← plain p.inFlow (p.indent + 1).toNat p.cursor
  some ((p.push (.scalar text true)).allowKey broken |>.moveTo c)

/-- The characters that begin no plain text. -/
def isIndicator (c : Char) : Bool :=
  ['-', '?', ':', ',', '[', ']', '\x7b', '\x7d', '#', '&', '*', '!', '|', '>', '\'', '"', '%', '@',
    '`'].contains c

/-- Whether a plain text begins with this character before those. -/
def beginsPlain (flow : Bool) (c : Char) (rest : List Char) : Bool :=
  if c = '-' then !((rest.head?.map isBlank).getD false)
  else if c = '?' || c = ':' then !flow && !endsWord rest
  else !isIndicator c && !isBlank c && !isBreak c

/-- Reads the token that begins with this character before those. -/
def readAt (c : Char) (rest : List Char) (p : Progress) : Option Progress :=
  let flow := p.inFlow
  if p.cursor.column = 0 && c = '%' then p.readDirective
  else if p.cursor.atDocumentMark then
    p.readDocumentMark (if c = '-' then .documentStart else .documentEnd)
  else if c = '[' then p.openFlow .flowSequenceStart
  else if c = '\x7b' then p.openFlow .flowMappingStart
  else if c = ']' then p.closeFlow .flowSequenceEnd
  else if c = '\x7d' then p.closeFlow .flowMappingEnd
  else if c = ',' then p.readFlowEntry
  else if c = '-' && endsWord rest then p.readBlockEntry
  else if c = '?' && (flow || endsWord rest) then p.readKey
  else if c = ':' && (flow || endsWord rest) then p.readValue
  else if c = '*' then p.readAnchor .reference
  else if c = '&' then p.readAnchor .anchor
  else if c = '!' then p.readTag
  else if c = '|' && !flow then p.readBlockText true
  else if c = '>' && !flow then p.readBlockText false
  else if c = '\'' then p.readQuotedText true
  else if c = '"' then p.readQuotedText false
  else if beginsPlain flow c rest then p.readPlainText
  else none

/-- Ends the text: all blocks end, and a key that had to come is missing. -/
def finish (p : Progress) : Option Progress := (p.closeBlocks (-1)).dropCandidate

/-- Reads tokens up to the end of the text.  The fuel bounds their number. -/
def run : Nat → Progress → Option Progress
  | 0, _ => none
  | fuel + 1, p => do
    let p ← (p.skipSpace (p.cursor.rest.length + 1)).dropStaleCandidates
    let p := p.closeBlocks p.cursor.column
    match p.cursor.rest with
    | [] => p.finish
    | c :: rest => (p.readAt c rest).bind (run fuel)

end Progress

/-- The tokens of a text; `none` if it cannot be divided. -/
def tokens (s : String) : Option (List Token) :=
  if s.toList.all isAllowed then
    (Progress.run (s.toList.length + 1) (Progress.start s.toList)).map fun p => p.newest.reverse
  else none

end SmartPlaylist.Yaml

import SmartPlaylist.Decimal.Natural
import SmartPlaylist.Text.Hexadecimal
import SmartPlaylist.Text.Utf8
import SmartPlaylist.Yaml.Cursor

/-!
# YAML: tags, anchors and directives

A tag is written in full between angle brackets, or as a handle and a suffix.
Percent signs in it stand before the bytes of a character.  A tag ends before
the first zero byte, however that was written.

## Main definitions

* `tagToken` — reads a tag.
* `anchorName` — reads the name of an anchor.
* `directive` — reads a directive.
-/

namespace SmartPlaylist.Yaml

/-! ### The characters of tags -/

/-- The characters of a tag written as a handle and a suffix. -/
def isTagChar (c : Char) : Bool :=
  isWord c || [';', '/', '?', ':', '@', '&', '=', '+', '$', '.', '%', '!', '~', '*', '\'', '(',
    ')'].contains c

/-- The characters of a tag written in full. -/
def isFullTagChar (c : Char) : Bool := isTagChar c || c = ',' || c = '[' || c = ']'

/-- Reads bytes written with percent signs. -/
def escapedByte? : List Char → Option (UInt8 × List Char)
  | '%' :: a :: b :: rest => do
    let high ← Text.hexValue? a
    let low ← Text.hexValue? b
    some ((high * 16 + low).toUInt8, rest)
  | _ => none

/-- How many bytes a character has that begins with this one. -/
def bytesOf? (first : UInt8) : Option Nat :=
  if first < 0x80 then some 1
  else if first < 0xC0 then none
  else if first < 0xE0 then some 2
  else if first < 0xF0 then some 3
  else if first < 0xF8 then some 4
  else none

/-- Reads that many more bytes of a character. -/
def continuation : Nat → List Char → Option (List UInt8 × List Char)
  | 0, cs => some ([], cs)
  | n + 1, cs => do
    let (b, cs) ← escapedByte? cs
    if 0x80 ≤ b && b < 0xC0 then
      let (more, cs) ← continuation n cs
      some (b :: more, cs)
    else none

/-- Reads the characters of a tag as bytes.  The fuel bounds their number. -/
def tagBytes (isPart : Char → Bool) : Nat → List Char → Option (List UInt8 × List Char)
  | 0, cs => some ([], cs)
  | _, [] => some ([], [])
  | fuel + 1, c :: rest =>
    if c = '%' then do
      let (first, cs) ← escapedByte? (c :: rest)
      let width ← bytesOf? first
      let (others, cs) ← continuation (width - 1) cs
      let (more, cs) ← tagBytes isPart fuel cs
      some (first :: others ++ more, cs)
    else if isPart c then do
      let (more, cs) ← tagBytes isPart fuel rest
      some (String.utf8EncodeChar c ++ more, cs)
    else some ([], c :: rest)

/-- The bytes before the first zero byte. -/
def beforeZero (bytes : List UInt8) : List UInt8 := bytes.takeWhile (· ≠ 0)

/-- Reads the characters of a tag, at least one.  What follows a zero byte has to be written well,
but does not count. -/
def someTagBytes (isPart : Char → Bool) (cs : List Char) : Option (List UInt8 × List Char) := do
  let (bytes, rest) ← tagBytes isPart (cs.length + 1) cs
  if rest.length = cs.length then none else some (beforeZero bytes, rest)

/-! ### Tags -/

/-- A handle and a suffix. -/
structure TagParts where
  handle : String
  suffix : List UInt8

/-- Reads the exclamation mark and name that a handle begins with, and a second mark if there is
one. -/
def handle : List Char → Option (List Char × Bool × List Char)
  | '!' :: rest =>
    let (name, rest) := rest.span isWord
    match rest with
    | '!' :: rest => some (name, true, rest)
    | rest => some (name, false, rest)
  | _ => none

/-- Reads a tag, of which the exclamation mark comes first.  A single mark is a tag of its own. -/
def tagParts (cs : List Char) : Option (TagParts × List Char) :=
  match cs with
  | '!' :: '<' :: rest => do
    let (suffix, rest) ← someTagBytes isFullTagChar rest
    match rest with
    | '>' :: rest => some (⟨"", suffix⟩, rest)
    | _ => none
  | cs => do
    let (name, closed, rest) ← handle cs
    if closed then
      let (suffix, rest) ← someTagBytes isTagChar rest
      some (⟨String.ofList ('!' :: name ++ ['!']), suffix⟩, rest)
    else
      let (more, rest) ← tagBytes isTagChar (rest.length + 1) rest
      let suffix := beforeZero (name.flatMap String.utf8EncodeChar ++ more)
      some (if suffix.isEmpty then ⟨"", Text.utf8 "!"⟩ else ⟨"!", suffix⟩, rest)

/-- Reads a tag; a blank must follow, or a comma in a flow collection. -/
def tagToken (flow : Bool) (c : Cursor) : Option (TagParts × Cursor) := do
  let (parts, rest) ← tagParts c.rest
  if endsWord rest || (flow && rest.head? = some ',') then
    some (parts, c.advance (c.rest.length - rest.length))
  else none

/-! ### Anchors -/

/-- Reads the name of an anchor after its indicator. -/
def anchorName (c : Cursor) : Option (String × Cursor) :=
  let (name, next) := (c.advance 1).span isWord
  let follows := match next.rest with
    | [] => true
    | b :: _ => isBlank b || isBreak b || ['?', ':', ',', ']', '\x7d', '%', '@', '`'].contains b
  if name.isEmpty || !follows then none else some (String.ofList name, next)

/-! ### Directives -/

/-- Reads a version number of at most nine digits. -/
def versionNumber (cs : List Char) : Option (Nat × List Char) :=
  let (digits, rest) := cs.span Char.isDigit
  if digits.isEmpty || 9 < digits.length then none
  else some (Decimal.ofDigits digits, rest)

/-- A directive. -/
inductive Directive where
  | version (major minor : Nat)
  | tagHandle (handle : String) (beginning : List UInt8)

/-- Reads a version directive after its name. -/
def versionDirective (cs : List Char) : Option (Directive × List Char) := do
  let (major, rest) ← versionNumber (cs.dropWhile isBlank)
  match rest with
  | '.' :: rest =>
    let (minor, rest) ← versionNumber rest
    some (.version major minor, rest)
  | _ => none

/-- Reads a handle directive after its name. -/
def handleDirective (cs : List Char) : Option (Directive × List Char) := do
  let (name, closed, rest) ← handle (cs.dropWhile isBlank)
  if !closed && !name.isEmpty then none
  else
    match rest with
    | b :: _ =>
      if !isBlank b then none
      else
        let (beginning, rest) ← someTagBytes isFullTagChar (rest.dropWhile isBlank)
        if endsWord rest then
          let text := '!' :: name ++ (if closed then ['!'] else [])
          some (.tagHandle (String.ofList text) beginning, rest)
        else none
    | [] => none

/-- Reads a directive, of which the percent sign comes first, with the rest of its line. -/
def directive (c : Cursor) : Option (Directive × Cursor) := do
  let (name, next) := (c.advance 1).span isWord
  if name.isEmpty || !endsWord next.rest then none
  else
    let (d, rest) ← match String.ofList name with
      | "YAML" => versionDirective next.rest
      | "TAG" => handleDirective next.rest
      | _ => none
    let c ← (next.advance (next.rest.length - rest.length)).restOfLine
    some (d, c)

end SmartPlaylist.Yaml

import SmartPlaylist.Yaml.Folding

/-!
# YAML: plain texts

A plain text has no quotes.  It ends before a colon that a blank follows, before
a comment, before an indicator of the flow collection it stands in, and, outside
those, before a line that is indented too little.

## Main definitions

* `plain` — reads a plain text.
-/

namespace SmartPlaylist.Yaml

/-- The indicators that delimit flow collections. -/
def isFlowIndicator (c : Char) : Bool :=
  c = ',' || c = '[' || c = ']' || c = '\x7b' || c = '\x7d'

/-- Reads a word of a plain text.  In a flow collection a colon right before an indicator is
refused. -/
def plainWord (flow : Bool) : List Char → Option (List Char)
  | [] => some []
  | c :: rest =>
    if isBlank c || isBreak c then some []
    else if c = ':' then
      match rest with
      | [] => some []
      | d :: _ =>
        if flow && (isFlowIndicator d || d = '?') then none
        else if isBlank d || isBreak d then some []
        else (plainWord flow rest).map (c :: ·)
    else if flow && isFlowIndicator c then some []
    else (plainWord flow rest).map (c :: ·)

/-- Reads gaps and words after the first word.  Gives the text, the place after it, and whether
lines were broken there.  The fuel bounds the number of words. -/
def plainTail (flow : Bool) (indent : Nat) : Nat → Cursor → Option (List Char × Cursor × Bool)
  | 0, c => some ([], c, false)
  | fuel + 1, c => do
    let (g, next) ← gap indent (c.rest.length + 1) Gap.empty c
    if next.index = c.index then some ([], c, false)
    else if !flow && next.column < indent then some ([], next, g.broken)
    else if next.atDocumentMark || next.rest.head? = some '#' then some ([], next, g.broken)
    else
      let word ← plainWord flow next.rest
      if word.isEmpty then some ([], next, g.broken)
      else
        let (text, c, broken) ← plainTail flow indent fuel (next.advance word.length)
        some (g.text ++ word ++ text, c, broken)

/-- Reads a plain text whose lines must be indented to the column `indent`. -/
def plain (flow : Bool) (indent : Nat) (c : Cursor) : Option (String × Cursor × Bool) := do
  let word ← plainWord flow c.rest
  let (text, c, broken) ← plainTail flow indent (c.rest.length + 1) (c.advance word.length)
  some (String.ofList (word ++ text), c, broken)

end SmartPlaylist.Yaml

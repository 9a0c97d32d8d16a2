import SmartPlaylist.Text.Utf8
import SmartPlaylist.Yaml.Token

/-!
# YAML: nodes

A document is a node: a text, a sequence, a mapping, or a reference to a node
that an anchor names.  A node that is missing where one may be is an empty plain
text.

## Main definitions

* `Node` — a node whose references are of some type.
* `Node.ofTokens` — reads a node in a place.
* `onlyDocument?` — the node of all tokens of a text.
-/

namespace SmartPlaylist.Yaml

/-- What may stand in front of a node's content. -/
structure Properties where
  anchor : Option String
  tag : Option (List UInt8)
  deriving DecidableEq, Repr, Inhabited

/-- No properties. -/
def Properties.none : Properties := ⟨.none, .none⟩

/-- Whether there is no property. -/
def Properties.isNone (p : Properties) : Bool := p.anchor.isNone && p.tag.isNone

/-- A node whose references are of type `α`. -/
inductive Node (α : Type) where
  | reference (target : α)
  | scalar (properties : Properties) (isPlain : Bool) (text : String)
  | sequence (properties : Properties) (items : List (Node α))
  | mapping (properties : Properties) (pairs : List (Node α × Node α))
  deriving Inhabited

/-- A node that is not there. -/
def Node.absent : Node String := .scalar Properties.none true ""

/-- Reads something off the front of the tokens. -/
abbrev TokenReader (α : Type) := List Token → Option (α × List Token)

/-- Where a node stands. -/
inductive Place where
  /-- An item of a block sequence, or a whole document. -/
  | block
  /-- The key or value of a block mapping, whose sequences need no indentation. -/
  | inMapping
  /-- In a flow collection. -/
  | flow
  deriving DecidableEq, Repr

namespace Node

/-! ### Collections -/

/-- Reads the items of a block sequence up to its end. -/
def blockItems (node : Place → TokenReader (Node String)) : Nat → TokenReader (List (Node String))
  | 0, _ => none
  | _ + 1, .blockEnd :: ts => some ([], ts)
  | fuel + 1, .blockEntry :: ts => do
    let (first, ts) ← match ts with
      | .blockEntry :: _ => some (absent, ts)
      | .blockEnd :: _ => some (absent, ts)
      | _ => node .block ts
    let (others, ts) ← blockItems node fuel ts
    some (first :: others, ts)
  | _ + 1, _ => none

/-- Reads the items of a sequence at the column of the mapping around it. -/
def levelItems (node : Place → TokenReader (Node String)) : Nat → TokenReader (List (Node String))
  | 0, _ => none
  | fuel + 1, .blockEntry :: ts => do
    let (first, ts) ← match ts with
      | .blockEntry :: _ => some (absent, ts)
      | .key :: _ => some (absent, ts)
      | .value :: _ => some (absent, ts)
      | .blockEnd :: _ => some (absent, ts)
      | _ => node .block ts
    let (others, ts) ← levelItems node fuel ts
    some (first :: others, ts)
  | _ + 1, ts => some ([], ts)

/-- Reads the key or value of a block mapping after its token. -/
def blockPart (node : Place → TokenReader (Node String)) : TokenReader (Node String)
  | .key :: ts => some (absent, .key :: ts)
  | .value :: ts => some (absent, .value :: ts)
  | .blockEnd :: ts => some (absent, .blockEnd :: ts)
  | ts => node .inMapping ts

/-- Reads the pairs of a block mapping up to its end. -/
def blockPairs (node : Place → TokenReader (Node String)) :
    Nat → TokenReader (List (Node String × Node String))
  | 0, _ => none
  | _ + 1, .blockEnd :: ts => some ([], ts)
  | fuel + 1, .key :: ts => do
    let (key, ts) ← blockPart node ts
    let (value, ts) ← match ts with
      | .value :: ts => blockPart node ts
      | ts => some (absent, ts)
    let (others, ts) ← blockPairs node fuel ts
    some ((key, value) :: others, ts)
  | _ + 1, _ => none

/-- Reads the value of a pair in a flow collection, if there is one, up to a comma or the bracket
that closes the collection. -/
def flowValue (node : Place → TokenReader (Node String)) (closing : Token) :
    TokenReader (Node String)
  | .value :: t :: ts =>
    if t = .flowEntry || t = closing then some (absent, t :: ts) else node .flow (t :: ts)
  | [.value] => node .flow []
  | ts => some (absent, ts)

/-- Reads a pair that stands as an item of a flow sequence, after its token.  Where the key is
missing the token after it is lost. -/
def pairItem (node : Place → TokenReader (Node String)) : TokenReader (Node String) := fun ts => do
  let (key, ts) ← match ts with
    | .value :: ts => some (absent, ts)
    | .flowEntry :: ts => some (absent, ts)
    | .flowSequenceEnd :: ts => some (absent, ts)
    | ts => node .flow ts
  let (value, ts) ← flowValue node .flowSequenceEnd ts
  some (.mapping Properties.none [(key, value)], ts)

/-- Reads the items of a flow sequence up to its closing bracket; a comma may stand after the last
one. -/
def flowItems (node : Place → TokenReader (Node String)) : Nat → TokenReader (List (Node String))
  | 0, _ => none
  | _ + 1, .flowSequenceEnd :: ts => some ([], ts)
  | fuel + 1, ts => do
    let (first, ts) ← match ts with
      | .key :: ts => pairItem node ts
      | ts => node .flow ts
    match ts with
    | .flowSequenceEnd :: ts => some ([first], ts)
    | .flowEntry :: ts =>
      let (others, ts) ← flowItems node fuel ts
      some (first :: others, ts)
    | _ => none

/-- Reads a pair of a flow mapping; without the token of a key it has no value. -/
def flowPair (node : Place → TokenReader (Node String)) : TokenReader (Node String × Node String)
  | .key :: t :: ts => do
    let (key, ts) ←
      if t = .value || t = .flowEntry || t = .flowMappingEnd then some (absent, t :: ts)
      else node .flow (t :: ts)
    let (value, ts) ← flowValue node .flowMappingEnd ts
    some ((key, value), ts)
  | ts => (node .flow ts).map fun (key, ts) => ((key, absent), ts)

/-- Reads the pairs of a flow mapping up to its closing bracket; a comma may stand after the last
one. -/
def flowPairs (node : Place → TokenReader (Node String)) :
    Nat → TokenReader (List (Node String × Node String))
  | 0, _ => none
  | _ + 1, .flowMappingEnd :: ts => some ([], ts)
  | fuel + 1, ts => do
    let (first, ts) ← flowPair node ts
    match ts with
    | .flowMappingEnd :: ts => some ([first], ts)
    | .flowEntry :: ts =>
      let (others, ts) ← flowPairs node fuel ts
      some (first :: others, ts)
    | _ => none

/-! ### Nodes -/

/-- What the handles of tags stand for. -/
abbrev Handles := List (String × List UInt8)

/-- The handles that every document has. -/
def standardHandles : Handles :=
  [("!", Text.utf8 "!"), ("!!", Text.utf8 "tag:yaml.org,2002:")]

/-- The tag that a handle and a suffix stand for; without a handle the suffix is the tag. -/
def wholeTag? (handles : Handles) (handle : String) (suffix : List UInt8) : Option (List UInt8) :=
  if handle = "" then some suffix else (handles.lookup handle).map (· ++ suffix)

/-- Reads an anchor and a tag in either order, if they are there. -/
def properties (handles : Handles) : TokenReader Properties
  | .anchor name :: .tag handle suffix :: ts =>
    (wholeTag? handles handle suffix).map fun t => (⟨name, t⟩, ts)
  | .anchor name :: ts => some (⟨name, none⟩, ts)
  | .tag handle suffix :: .anchor name :: ts =>
    (wholeTag? handles handle suffix).map fun t => (⟨name, t⟩, ts)
  | .tag handle suffix :: ts => (wholeTag? handles handle suffix).map fun t => (⟨none, t⟩, ts)
  | ts => some (Properties.none, ts)

/-- Reads a node in which collections nest at most `depth` deep. -/
def ofTokens (handles : Handles) : Nat → Place → TokenReader (Node String)
  | _, _, .reference name :: ts => some (.reference name, ts)
  | depth, place, ts => do
    let (p, ts) ← properties handles ts
    match depth, ts with
    | _, .scalar text isPlain :: ts => some (.scalar p isPlain text, ts)
    | depth + 1, .flowSequenceStart :: ts =>
      (flowItems (ofTokens handles depth) (ts.length + 1) ts).map fun (items, ts) =>
        (.sequence p items, ts)
    | depth + 1, .flowMappingStart :: ts =>
      (flowPairs (ofTokens handles depth) (ts.length + 1) ts).map fun (pairs, ts) =>
        (.mapping p pairs, ts)
    | depth + 1, t :: ts =>
      if t = .blockEntry && place = .inMapping then
        (levelItems (ofTokens handles depth) (ts.length + 2) (t :: ts)).map fun (items, ts) =>
          (.sequence p items, ts)
      else if t = .blockSequenceStart && place ≠ .flow then
        (blockItems (ofTokens handles depth) (ts.length + 1) ts).map fun (items, ts) =>
          (.sequence p items, ts)
      else if t = .blockMappingStart && place ≠ .flow then
        (blockPairs (ofTokens handles depth) (ts.length + 1) ts).map fun (pairs, ts) =>
          (.mapping p pairs, ts)
      else if p.isNone then none
      else some (.scalar p true "", t :: ts)
    | _, ts => if p.isNone then none else some (.scalar p true "", ts)

end Node

/-- Reads the directives before a document: at most one version, 1.1 or 1.2, and each handle at
most once. -/
def directives : Bool → Node.Handles → List Token → Option (Node.Handles × List Token)
  | versioned, handles, .version major minor :: ts =>
    if versioned || major ≠ 1 || (minor ≠ 1 && minor ≠ 2) then none
    else directives true handles ts
  | versioned, handles, .tagHandle handle beginning :: ts =>
    if (handles.lookup handle).isSome then none
    else directives versioned (handles ++ [(handle, beginning)]) ts
  | _, handles, ts => some (handles, ts)

/-- Reads the content of a document after its mark; it may be missing. -/
def content (handles : Node.Handles) (depth : Nat) : TokenReader (Node String)
  | [] => some (Node.absent, [])
  | t :: ts =>
    if t = .documentStart || t = .documentEnd then some (Node.absent, t :: ts)
    else Node.ofTokens handles depth .block (t :: ts)

/-- Reads a document; one with directives must have a mark after them. -/
def document (depth : Nat) : TokenReader (Node String) := fun ts => do
  let (own, after) ← directives false [] ts
  let handles := own ++ Node.standardHandles
  match after with
  | .documentStart :: rest => content handles depth rest
  | rest => if rest.length = ts.length then Node.ofTokens handles depth .block rest else none

/-- The node of a text's only document, in which collections nest at most `depth` deep.  A text may
also have no document at all. -/
def onlyDocument? (depth : Nat) (ts : List Token) : Option (Option (Node String)) := do
  if ts.isEmpty then some none
  else
    let (node, rest) ← document depth ts
    if (rest.dropWhile (· = .documentEnd)).isEmpty then some (some node) else none

end SmartPlaylist.Yaml

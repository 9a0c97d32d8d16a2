import SmartPlaylist.Text.Utf8
import SmartPlaylist.Yaml.Anchor
import SmartPlaylist.Yaml.Scalar
import SmartPlaylist.Yaml.Tokens

/-!
# YAML documents

A text is read as the JSON value of its only document.  A tag of the core
schema decides how a text is read, any other global tag leaves it a text, and a
local tag has no JSON value.  The keys of a mapping are texts whatever they look
like.

## Main definitions

* `valueOf` — the value of a node.
* `parse` — a whole text as a JSON value.
-/

namespace SmartPlaylist.Yaml

/-- How deep collections may nest, those behind references included. -/
def nestingLimit : Nat := 128

/-- How many references may be followed for each step of a document. -/
def referencesPerStep : Nat := 100

/-! ### Tags -/

/-- A tag of the core schema. -/
def coreTag (name : String) : List UInt8 := Text.utf8 ("tag:yaml.org,2002:" ++ name)

/-- Whether a tag begins with an exclamation mark. -/
def isLocalTag (tag : List UInt8) : Bool := tag.head? = some 0x21

/-- Whether a tag names a kind of value that JSON does not have: a local one that is UTF-8. -/
def isForeign (p : Properties) : Bool :=
  match p.tag with
  | some (0x21 :: []) => true
  | some (0x21 :: rest) => (Text.ofUtf8? rest).isSome
  | _ => false

/-- The value of a text that has no foreign tag. -/
def scalarValue (p : Properties) (isPlain : Bool) (s : String) : Option Json :=
  match p.tag with
  | none => if isPlain then ofPlain s else some (.string s)
  | some tag =>
    if tag = coreTag "bool" then (bool? s).map Json.bool
    else if tag = coreTag "int" then
      match readWhole s.toList with
      | .value w => some (.number (.whole w))
      | _ => none
    else if tag = coreTag "float" then real? s
    else if tag = coreTag "null" then if isNull s then some .null else none
    else if isLocalTag tag && isPlain then ofPlain s
    else some (.string s)

/-! ### Values -/

/-- Counts the references that were followed; fails when they are too many. -/
abbrev Following := StateT Nat Option

/-- Follows one reference. -/
def follow (d : Numbered) (n : Nat) : Following (Node Nat) := fun followed =>
  if referencesPerStep * d.root.size < followed + 1 then none
  else (d.target? n).map (·, followed + 1)

/-- The node itself, or what it refers to. -/
def resolve (d : Numbered) : Node Nat → Following (Node Nat)
  | .reference n => follow d n
  | node => pure node

/-- The text of a key. -/
def keyText (d : Numbered) (node : Node Nat) : Following String := do
  match ← resolve d node with
  | .scalar _ _ text => pure text
  | _ => failure

/-- The values of nodes one after another, given how each is read. -/
def valuesOf (value : Node Nat → Following Json) : List (Node Nat) → Following (List Json)
  | [] => pure []
  | item :: rest => do
    let first ← value item
    let others ← valuesOf value rest
    pure (first :: others)

/-- The fields of pairs one after another, given how keys and values are read. -/
def fieldsOf (key : Node Nat → Following String) (value : Node Nat → Following Json) :
    List (Node Nat × Node Nat) → Following (List (String × Json))
  | [] => pure []
  | (k, v) :: rest => do
    let name ← key k
    let first ← value v
    let others ← fieldsOf key value rest
    pure ((name, first) :: others)

/-- The value of a node in which collections nest at most `depth` deep. -/
def valueOf (d : Numbered) : Nat → Node Nat → Following Json
  | depth, node => do
    match ← resolve d node, depth with
    | .reference _, _ => failure
    | .scalar p isPlain text, _ =>
      if isForeign p then failure
      else
        match scalarValue p isPlain text with
        | some v => pure v
        | none => failure
    | .sequence p items, depth + 1 =>
      if isForeign p then failure else Json.array <$> valuesOf (valueOf d depth) items
    | .mapping p pairs, depth + 1 =>
      if isForeign p then failure
      else Json.object <$> fieldsOf (keyText d) (valueOf d depth) pairs
    | .sequence _ _, 0 => failure
    | .mapping _ _, 0 => failure

/-- Reads a whole text as a JSON value; `none` if it is not YAML or has no JSON value.  A text
without a document reads as null. -/
def parse (s : String) : Option Json := do
  let ts ← tokens s
  match ← onlyDocument? nestingLimit ts with
  | none => some .null
  | some node =>
    let d ← Numbered.ofNode? node
    (valueOf d nestingLimit d.root 0).map Prod.fst

end SmartPlaylist.Yaml

/-!
# YAML: tokens

Indentation and the keys of mappings are told by tokens of their own: a block
collection has a token for its start and its end, and every key that needs one
has a token in front of it.

## Main definitions

* `Token` — the tokens.
-/

namespace SmartPlaylist.Yaml

/-- A token. -/
inductive Token where
  /-- The version directive with its two numbers. -/
  | version (major minor : Nat)
  /-- A directive that lets a handle stand for the beginning of tags. -/
  | tagHandle (handle : String) (beginning : List UInt8)
  | documentStart
  | documentEnd
  | blockSequenceStart
  | blockMappingStart
  | blockEnd
  | flowSequenceStart
  | flowSequenceEnd
  | flowMappingStart
  | flowMappingEnd
  /-- The hyphen before an item. -/
  | blockEntry
  /-- The comma between items. -/
  | flowEntry
  | key
  | value
  /-- A second mention of an anchored node. -/
  | reference (name : String)
  | anchor (name : String)
  | tag (handle : String) (suffix : List UInt8)
  /-- A text, and whether it is plain. -/
  | scalar (text : String) (isPlain : Bool)
  deriving DecidableEq, Repr

end SmartPlaylist.Yaml

import SmartPlaylist.Definition.OfJson
import SmartPlaylist.Json.Reader
import SmartPlaylist.Toml.Document
import SmartPlaylist.Yaml.Document

/-!
# Definitions from text

A definition is written in one of three formats, told by the extension of its
file's name.  Whatever the format, the text is first read as one JSON value.

## Main definitions

* `fileExtension?` — the extension of a path's last component.
* `TextFormat` — the formats.
* `Definition.ofText` — the definition of a text.
-/

namespace SmartPlaylist

/-- The components of a path; empty ones and those that stand for the same directory do not
count. -/
def pathComponents (path : String) : List String :=
  ((path.toList.splitOn '/').map String.ofList).filter fun c => c ≠ "" && c ≠ "."

/-- The extension of a file's name: what follows its last point, unless the name only starts with
it. -/
def fileExtension? (path : String) : Option String :=
  match (pathComponents path).getLast? with
  | none => none
  | some name =>
    if name = ".." then none
    else
      let reversed := name.toList.reverse
      match reversed.dropWhile (· ≠ '.') with
      | [] => none
      | [_] => none
      | _ => some (String.ofList (reversed.takeWhile (· ≠ '.')).reverse)

/-- The format of a definition's text. -/
inductive TextFormat where
  | json
  | toml
  | yaml
  deriving DecidableEq, Repr, Inhabited

/-- The format that a path tells; anything unknown is taken for YAML. -/
def TextFormat.ofPath (path : String) : TextFormat :=
  match fileExtension? path with
  | some "json" => .json
  | some "toml" => .toml
  | _ => .yaml

/-- Reads a text of that format as a JSON value. -/
def TextFormat.parse (format : TextFormat) (text : String) : Option Json :=
  match format with
  | .json => Json.parse text
  | .toml => Toml.parse text
  | .yaml => Yaml.parse text

/-- Reads the definition in the text of a file. -/
def Definition.ofText (path text : String) : Except DefinitionError Definition :=
  match (TextFormat.ofPath path).parse text with
  | none => .error (.unparsable path)
  | some value => Definition.ofJson value

end SmartPlaylist

import SmartPlaylist.Definition.Format
import SmartPlaylist.Settings.Environment
import SmartPlaylist.Text.Sorted

/-!
# Folders of definitions

A folder holds one definition a file.  Each file is read by itself, so a broken
one does not hide the others, and they are always read in the order of their
names.

## Main definitions

* `FolderEntry` — what is in a folder.
* `Folder.definitionNames` — the names of its definition files, in order.
* `Folder.load` — the definitions in them.
-/

namespace SmartPlaylist

/-- An entry of a folder. -/
inductive FolderEntry where
  /-- A file, with its text if it is text. -/
  | file (name : String) (text : Option String)
  /-- Anything else. -/
  | other (name : String)
  deriving DecidableEq, Repr

namespace Folder

/-- The extensions of definition files. -/
def extensions : List String := ["yaml", "yml", "toml", "json"]

/-- The name and text of an entry that is a definition file. -/
def definitionFile? : FolderEntry → Option (String × Option String)
  | .file name text =>
    if (fileExtension? name).any extensions.contains then some (name, text) else none
  | .other _ => none

/-- The definition files of a folder in the order of their names. -/
def definitionFiles (entries : List FolderEntry) : List (String × Option String) :=
  (entries.filterMap definitionFile?).mergeSort fun a b => decide (a.1 ≤ b.1)

/-- The names of the definition files of a folder, in order. -/
def definitionNames (entries : List FolderEntry) : List String :=
  (definitionFiles entries).map Prod.fst

/-- Reads a definition file, given its path and its text. -/
def readFile (path : String) (text : Option String) : Except DefinitionError Definition :=
  match text with
  | some text => Definition.ofText path text
  | none => .error (.unreadable path)

/-- Reads every definition file of a folder. -/
def load (directory : String) (entries : List FolderEntry) :
    List (String × Except DefinitionError Definition) :=
  (definitionFiles entries).map fun (name, text) =>
    let path := Environment.joinPath directory name
    (path, readFile path text)

end Folder

end SmartPlaylist

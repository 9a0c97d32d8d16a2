import SmartPlaylist.Settings.Environment
import SmartPlaylist.Text.Alphanumeric
import SmartPlaylist.Text.Blank

/-!
# Files of environment assignments

A file holds one assignment `NAME=value` a line, optionally after the word
`export`; blank lines and lines that start with `#` are skipped.  Parts of a value
may be quoted.  Single quotes keep everything as it stands; elsewhere a backslash
escapes the next character, and `$NAME` or `${NAME}` stands for the value of a
variable, first of the environment and else of an earlier line.  Outside quotes a
blank ends the value, and only a comment may follow it.

A bad line ends the reading; the assignments before it stand.

## Main definitions

* `EnvFile.Value` — the reading of one value, character by character.
* `EnvFile.line` — one line.
* `EnvFile.load` — a whole text, taken into an environment.
* `EnvFile.mentioned` — the variables that a text looks at.
-/

namespace SmartPlaylist.EnvFile

/-- Assignments of earlier lines, the latest first. -/
abbrev Earlier := List (String × String)

/-! ### Values -/

namespace Value

/-- Where the reading of a value stands. -/
inductive Place where
  /-- Outside all quotes. -/
  | bare
  /-- Between single quotes. -/
  | single
  /-- Between double quotes. -/
  | double
  /-- After the blank that ends the value. -/
  | ended
  deriving DecidableEq, Repr

/-- What is being read. -/
inductive Mode where
  | text
  /-- The character after a backslash. -/
  | escape
  /-- A variable's name after a dollar sign, in reverse. -/
  | name (reversed : List Char)
  /-- A variable's name between braces, in reverse. -/
  | braced (reversed : List Char)
  deriving DecidableEq, Repr

/-- The state between two characters. -/
structure State where
  place : Place
  mode : Mode
  /-- The value so far, in reverse. -/
  reversed : List Char

/-- The value of a variable: of the environment, else of an earlier line, else empty. -/
def lookUp (env : Environment) (earlier : Earlier) (reversedName : List Char) : List Char :=
  let name := String.ofList reversedName.reverse
  match env.get? name with
  | some v => v.toList
  | none => ((earlier.lookup name).getD "").toList

/-- The characters that may follow a backslash, and what they stand for. -/
def escaped? (c : Char) : Option Char :=
  if c = '\\' ∨ c = '\'' ∨ c = '"' ∨ c = '$' ∨ c = ' ' then some c
  else if c = 'n' then some '\n'
  else none

/-- The next state after a plain character outside names and escapes; `none` for a bad one. -/
def plain (s : State) (c : Char) : Option State :=
  match s.place with
  | .ended => none
  | .single =>
    if c = '\'' then some { s with place := .bare } else some { s with reversed := c :: s.reversed }
  | .double =>
    if c = '$' then some { s with mode := .name [] }
    else if c = '"' then some { s with place := .bare }
    else if c = '\\' then some { s with mode := .escape }
    else some { s with reversed := c :: s.reversed }
  | .bare =>
    if c = '$' then some { s with mode := .name [] }
    else if c = '\'' then some { s with place := .single }
    else if c = '"' then some { s with place := .double }
    else if c = '\\' then some { s with mode := .escape }
    else if c = ' ' ∨ c = '\t' then some { s with place := .ended }
    else some { s with reversed := c :: s.reversed }

/-- The next state after a character; `none` for a bad one.  The character that ends a bare name
belongs to the value, even a quote or a blank. -/
def step (env : Environment) (earlier : Earlier) (s : State) (c : Char) : Option State :=
  match s.mode with
  | .text => plain s c
  | .escape => (escaped? c).map fun e => { s with mode := .text, reversed := e :: s.reversed }
  | .name name =>
    if Text.isAlphanumeric c then some { s with mode := .name (c :: name) }
    else if c = '\x7b' ∧ name = [] then some { s with mode := .braced [] }
    else
      let reversed := (lookUp env earlier name).reverse ++ s.reversed
      if c = '$' then some { s with mode := .name [], reversed }
      else some { s with mode := .text, reversed := c :: reversed }
  | .braced name =>
    if c = '\x7d' then
      some { s with mode := .text, reversed := (lookUp env earlier name).reverse ++ s.reversed }
    else some { s with mode := .braced (c :: name) }

/-- The value at the end of the characters; quotes and braces must be closed. -/
def finish (env : Environment) (earlier : Earlier) (s : State) : Option String :=
  match s.place, s.mode with
  | .single, _ => none
  | .double, _ => none
  | _, .braced _ => none
  | _, .name name => some (String.ofList ((lookUp env earlier name).reverse ++ s.reversed).reverse)
  | _, _ => some (String.ofList s.reversed.reverse)

/-- Reads the characters from a state on.  After the end of the value only blanks may stand, and
a comment. -/
def run (env : Environment) (earlier : Earlier) (s : State) : List Char → Option String
  | [] => finish env earlier s
  | c :: cs =>
    if s.place = .ended then
      if c = ' ' ∨ c = '\t' then run env earlier s cs
      else if c = '#' then finish env earlier s
      else none
    else
      match step env earlier s c with
      | some next => run env earlier next cs
      | none => none

/-- The value that characters denote. -/
def parse (env : Environment) (earlier : Earlier) (cs : List Char) : Option String :=
  run env earlier ⟨.bare, .text, []⟩ cs

end Value

/-! ### Lines -/

/-- Reads a name: a letter or underscore, then letters, digits, underscores and points. -/
def name (cs : List Char) : Option (String × List Char) :=
  match cs with
  | [] => none
  | c :: _ =>
    if c.isAlpha || c = '_' then
      let inName := fun (c : Char) => c.isAlphanum || c = '_' || c = '.'
      some (String.ofList (cs.takeWhile inName), cs.dropWhile inName)
    else none

/-- Reads an equals sign after blanks, and the blanks that follow it. -/
def equalsSign (cs : List Char) : Option (List Char) :=
  match cs.dropWhile Text.isBlank with
  | '=' :: rest => some (rest.dropWhile Text.isBlank)
  | _ => none

/-- Reads the name and the equals sign of an assignment.  The word `export` may stand before the
name, and is itself a name when the equals sign follows. -/
def assignee (cs : List Char) : Option (String × List Char) := do
  let (first, rest) ← name cs
  match equalsSign rest with
  | some value => some (first, value)
  | none =>
    if first = "export" then
      let (second, rest) ← name (rest.dropWhile Text.isBlank)
      let value ← equalsSign rest
      some (second, value)
    else none

/-- What a line says. -/
inductive Line where
  | nothing
  | assignment (name value : String)
  | bad
  deriving DecidableEq, Repr

/-- Reads one line. -/
def line (env : Environment) (earlier : Earlier) (text : String) : Line :=
  match (Text.trimEnd text).toList.dropWhile Text.isBlank with
  | [] => .nothing
  | '#' :: _ => .nothing
  | cs =>
    match assignee cs with
    | none => .bad
    | some (name, []) => .assignment name ""
    | some (name, '#' :: _) => .assignment name ""
    | some (name, value) =>
      match Value.parse env earlier value with
      | some value => .assignment name value
      | none => .bad

/-! ### Files -/

/-- The lines of a text: each ends at a line feed, and a carriage return before it is dropped. -/
def lines (text : String) : List String :=
  let pieces := text.toList.splitOn '\n'
  let pieces := if pieces.getLast? = some [] then pieces.dropLast else pieces
  pieces.map fun p => String.ofList (if p.getLast? = some '\r' then p.dropLast else p)

/-- Takes the lines into an environment one after another; gives the environment after the last
good line, and whether there was no bad one. -/
def loadLines (env : Environment) (earlier : Earlier) : List String → Environment × Bool
  | [] => (env, true)
  | text :: rest =>
    match line env earlier text with
    | .nothing => loadLines env earlier rest
    | .assignment name value =>
      loadLines (env.adopt (name, value)) ((name, value) :: earlier) rest
    | .bad => (env, false)

/-- Takes a file into an environment. -/
def load (env : Environment) (text : String) : Environment × Bool :=
  loadLines env [] (lines text)

/-- Takes in the files of the working directory and of the program's own directory, where they
exist.  A bad line in the first goes unnoticed; one in the second is reported by `false`. -/
def loadBoth (env : Environment) (working own : Option String) : Environment × Bool :=
  let env := match working with
    | some text => (load env text).1
    | none => env
  match own with
  | some text => load env text
  | none => (env, true)

/-! ### Names -/

/-- The variable that characters after a dollar sign refer to, with braces or without. -/
def referred (cs : List Char) : String :=
  let name := match cs with
    | '\x7b' :: rest => rest.takeWhile (· ≠ '\x7d')
    | _ => cs.takeWhile Text.isAlphanumeric
  Environment.keyOf (String.ofList name)

/-- The variables that dollar signs refer to. -/
def references : List Char → List String
  | [] => []
  | c :: cs => if c = '$' then referred cs :: references cs else references cs

/-- The variables that a line assigns or refers to. -/
def mentionedIn (text : String) : List String :=
  let cs := (Text.trimEnd text).toList.dropWhile Text.isBlank
  ((assignee cs).map Prod.fst).toList ++ references cs

/-- The variables that a text looks at. -/
def mentioned (text : String) : List String := (lines text).flatMap mentionedIn

end SmartPlaylist.EnvFile

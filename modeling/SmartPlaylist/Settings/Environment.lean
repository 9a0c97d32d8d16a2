/-!
# Environments

The variables that settings are read from.  A variable that is set, even to the
empty text, is never overwritten: the process environment comes first, then the
files in the order in which they are adopted, and of several assignments to one
variable the first counts.

## Main definitions

* `Environment`, `Environment.get?` — variables and their values.
* `Environment.adopt` — takes in an assignment unless the variable is set.
* `Environment.dataDirectory` — where the program keeps its own files.
-/

namespace SmartPlaylist

/-- Variables with their values, each name once. -/
structure Environment where
  bindings : List (String × String)
  deriving DecidableEq, Repr, Inhabited

namespace Environment

/-- The variable that a name finds: of a name with an equals sign, only what comes before it. -/
def keyOf (name : String) : String := String.ofList (name.toList.takeWhile (· ≠ '='))

/-- The value of a variable.  An assignment is one text, the name and the value joined by an equals
sign, and is found by any part of it that ends before an equals sign: so a name may go on into the
value, and what follows the sign after it is the answer. -/
def get? (env : Environment) (name : String) : Option String :=
  (env.bindings.lookup (keyOf name)).bind fun value =>
    match name.toList.dropWhile (· ≠ '=') with
    | [] => some value
    | _ :: beginning => (value.dropPrefix? (String.ofList beginning ++ "=")).map (·.toString)

/-- The environment with one more assignment, unless the variable is set already. -/
def adopt (env : Environment) (assignment : String × String) : Environment :=
  if (env.get? assignment.1).isSome then env else ⟨env.bindings ++ [assignment]⟩

/-- Takes in assignments in order. -/
def adoptAll (env : Environment) (assignments : List (String × String)) : Environment :=
  assignments.foldl adopt env

/-- A path with a component added. -/
def joinPath (base component : String) : String :=
  if base.isEmpty || base.endsWith "/" then base ++ component else base ++ "/" ++ component

/-- The home directory: the one that the environment names, else the account's. -/
def homeDirectory (env : Environment) (accountHome : Option String) : Option String :=
  match env.get? "HOME" with
  | some home => if home.isEmpty then accountHome else some home
  | none => accountHome

/-- The user's directory for local data.  The variable for it counts only when it holds an
absolute path. -/
def localDataDirectory (env : Environment) (accountHome : Option String) : Option String :=
  let fallback := (env.homeDirectory accountHome).map (joinPath · ".local/share")
  match env.get? "XDG_DATA_HOME" with
  | some path => if path.startsWith "/" then some path else fallback
  | none => fallback

/-- The program's own directory in it, or one in the working directory. -/
def dataDirectory (env : Environment) (accountHome : Option String) : String :=
  joinPath ((env.localDataDirectory accountHome).getD ".") "smartlists"

end Environment

end SmartPlaylist

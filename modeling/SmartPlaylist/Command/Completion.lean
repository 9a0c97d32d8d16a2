/-!
# Command words

The words of the command line, for those who read it and for those who type it:
the page of help, and the texts that make a shell complete them.

## Main definitions

* `Shell`, `Shell.ofName?` — the shells.
* `Shell.completions` — what such a shell reads.
* `CommandLine.help` — the page of help.
-/

namespace SmartPlaylist

/-- A shell that can complete command lines. -/
inductive Shell where
  | bash
  | elvish
  | fish
  | powershell
  | zsh
  deriving DecidableEq, Repr, Inhabited

namespace CommandLine

/-- The name of the program. -/
def program : String := "smartlists"

/-- What is printed about the version. -/
def version : String := program ++ " 0.1.0-dev"

/-- The commands, each with what it does. -/
def commands : List (String × String) :=
  [("auth", "Authorize with Spotify API"),
    ("pull", "Pull library, play history and metadata from Spotify"),
    ("build", "Compile playlist definitions into root playlists"),
    ("load", "Select tracks for every root playlist and sync them to Spotify"),
    ("update", "Pull, build and load in one run"),
    ("playlists", "Show stored root playlists"),
    ("completions", "Get shell completions"),
    ("help", "Print this message or the help of the given subcommand(s)")]

/-- The options, each with what it means. -/
def options : List (String × String) :=
  [("--database", "Database file holding the library and the root playlists"),
    ("--playlists", "Directory with playlist definitions (*.yaml, *.yml, *.toml, *.json)"),
    ("--target-size", "Number of tracks in each synced playlist (more than 5)"),
    ("--unresolved", "What to do with pinned tracks missing from the library")]

/-- A line of help. -/
def entry (e : String × String) : String := "  " ++ e.1 ++ "  " ++ e.2

/-- The page of help of the program, or of one of its commands. -/
def help (command : Option String) : List String :=
  let (title, usage, below) := match command with
    | none => ("Smart playlist engine for Spotify", program ++ " [OPTIONS] <COMMAND>",
        "Commands:" :: commands.map entry ++ [""])
    | some name => ((commands.lookup name).getD name, program ++ " " ++ name ++ " [OPTIONS]", [])
  [title, "", "Usage: " ++ usage, ""] ++ below ++ "Options:" :: options.map entry

end CommandLine

namespace Shell

open CommandLine

/-- The name of a shell. -/
def name : Shell → String
  | bash => "bash"
  | elvish => "elvish"
  | fish => "fish"
  | powershell => "powershell"
  | zsh => "zsh"

/-- Every shell. -/
def all : List Shell := [bash, elvish, fish, powershell, zsh]

/-- The shell of a name. -/
def ofName? (s : String) : Option Shell := all.find? fun shell => shell.name = s

/-- What the shell reads to complete the words of the program. -/
def completions (shell : Shell) : List String :=
  let words := commands.map Prod.fst ++ options.map Prod.fst
  let quoted := words.map fun w => "'" ++ w ++ "'"
  match shell with
  | bash => ["complete -W '" ++ " ".intercalate words ++ "' " ++ program]
  | fish => words.map fun w => "complete -c " ++ program ++ " -f -a '" ++ w ++ "'"
  | zsh => ["#compdef " ++ program, "compadd -- " ++ " ".intercalate words]
  | elvish =>
    ["set edit:completion:arg-completer[" ++ program ++ "] = \x7b|@words| put " ++
      " ".intercalate quoted ++ " \x7d"]
  | powershell =>
    ["Register-ArgumentCompleter -Native -CommandName '" ++ program ++ "' -ScriptBlock \x7b",
      "  " ++ ", ".intercalate quoted, "\x7d"]

theorem mem_all (s : Shell) : s ∈ all := by cases s <;> decide

theorem ofName?_name (s : Shell) : ofName? s.name = some s := by cases s <;> decide

end Shell

end SmartPlaylist

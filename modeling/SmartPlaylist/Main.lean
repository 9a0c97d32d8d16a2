import SmartPlaylist.Command.Plan
import SmartPlaylist.Store.Snapshot

/-!
# The program

Reads the environment, the files and the arguments, runs the command that they
ask for, and writes the notices and the database.  This build reaches no network,
so whatever needs the remote service reports that it cannot be reached.
-/

namespace SmartPlaylist

/-- The time and the numbers to use once, as the network knows them. -/
structure Desk where
  seconds : UInt64
  nextNonce : Nat

/-- A network over which nothing can be reached. -/
def Desk.network : Network Desk where
  send _ d := (none, d)
  now d := d.seconds
  sleep n d := { d with seconds := d.seconds + n.toUInt64 }
  nonce d := (.ofNat d.nextNonce, { d with nextNonce := d.nextNonce + 1 })

/-- The number that bytes denote. -/
def Desk.numberOf (bytes : ByteArray) : Nat := bytes.toList.foldl (fun n b => n * 256 + b.toNat) 0

/-! ### Files -/

/-- A random number of that many bytes. -/
def Program.random (bytes : Nat) : IO Nat := do
  return Desk.numberOf (← IO.getRandomBytes bytes.toUSize)

/-- The text of a file, if there is a file. -/
def Program.text? (path : String) : IO (Option String) := do
  try
    return some (← IO.FS.readFile path)
  catch _ => return none

/-- The directory of a path. -/
def Program.directory (path : String) : String :=
  String.ofList ((path.toList.reverse.dropWhile (· ≠ '/')).drop 1).reverse

/-- The entries of a folder with the texts of its definition files. -/
def Program.folder (path : String) : IO (Option (List FolderEntry)) := do
  try
    let entries ← ((← IO.currentDir) / path).readDir
    let read ← entries.toList.mapM fun entry => do
      if (← entry.path.isDir) then return FolderEntry.other entry.fileName
      else if (Folder.definitionFile? (.file entry.fileName none)).isNone then
        return FolderEntry.other entry.fileName
      else return FolderEntry.file entry.fileName (← Program.text? (toString entry.path))
    return some read
  catch _ => return none

/-- Makes a directory with those around it; `false` if it cannot be made. -/
def Program.makeDirectory (path : String) : IO Bool := do
  try
    if !path.isEmpty then IO.FS.createDirAll path
    return true
  catch _ => return false

/-- The database of a file; a file that is missing holds an empty one. -/
def Program.open (path : String) : IO (Except Notice Database) := do
  let directory := Program.directory path
  if !(← Program.makeDirectory directory) then
    return .error (.databaseNotOpened path (StoreError.unusableDirectory directory).message)
  else
    match ← Program.text? path with
    | none => return .ok {}
    | some text =>
      match (Json.parse text).bind Database.ofJson? with
      | some db => return .ok db
      | none => return .error (.databaseNotOpened path "database error: the file is damaged")

/-- Keeps the database in its file and gives the time at which that was done. -/
def Program.save (path : String) (db : Database) : IO (Nat × Nat) := do
  IO.FS.writeFile path db.toJson.compact
  let written ← ((← IO.currentDir) / path).metadata
  return (written.modified.sec.toNat, written.modified.nsec.toNat)

/-! ### Commands -/

/-- Prints notices. -/
def Program.print (notices : List Notice) : IO Unit :=
  notices.forM fun n => IO.println n.line

/-- Runs a job on the database of the settings, prints what it tells, and gives its outcome. -/
def Program.run {α : Type} (s : Settings) (job : Moment → Job Desk Notice α) :
    IO (Option α) := do
  match ← Program.open s.database with
  | .error notice =>
    Program.print [notice]
    return none
  | .ok db =>
    let (seconds, nanos) ← Program.save s.database db
    let start := (← Program.random 12)
    let seed := (← Program.random 32)
    let entropy : Entropy := ⟨fun i => seed * (2 * i + 1) / 0x1_0000_0000_0000_0000, 0⟩
    let session : Session Desk := ⟨db, ⟨seconds.toUInt64, start⟩, [], entropy⟩
    let (result, after) := Command.finish (job (.ofUnix seconds nanos)) session
    Program.print after.notices
    let _ ← Program.save s.database after.database
    return result

/-- Does what a command asks for; the code is zero if it came to its end. -/
def Program.perform (s : Settings) (command : Command) : IO UInt32 := do
  let folder ← Program.folder s.playlistsDirectory
  let seed ← Program.random 256
  let verifier := Pkce.verifier fun i => seed / Nat.pow 256 i
  match ← Program.run s fun now =>
      Command.perform Desk.network s folder now verifier [] command with
  | some table =>
    table.forM IO.println
    return 0
  | none => return 1

/-- The environment of the process, as far as the program looks at it. -/
def Program.environment (names : List String) : IO Environment := do
  let bindings ← names.eraseDups.filterMapM fun name => do
    return (← IO.getEnv name).map fun value => (name, value)
  return ⟨bindings⟩

end SmartPlaylist

open SmartPlaylist in
/-- Runs the command that the arguments ask for. -/
def main (args : List String) : IO UInt32 := do
  let start ← Program.environment Plan.baseVariables
  let own := start.dataDirectory none
  let made ← Program.makeDirectory own
  if !made then
    Program.print [.environmentNotLoaded "the program's own directory cannot be made"]
    return 1
  let workingFile ← Program.text? ".env"
  let ownFile ← Program.text? (Environment.joinPath own ".env")
  let env ← Program.environment (Plan.allVariables workingFile ownFile)
  -- the files may name another directory for what is made by default
  let (settled, _) := EnvFile.loadBoth env workingFile ownFile
  match Plan.make env (settled.dataDirectory none) workingFile ownFile args with
  | .say lines code =>
    lines.forM IO.println
    return code.toUInt32
  | .newKey =>
    let seed ← Program.random 32
    IO.println (CipherKey.random fun i => seed / Nat.pow 256 i).text
    return 0
  | .perform command settings => Program.perform settings command

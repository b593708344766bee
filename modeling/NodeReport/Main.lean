import Std.Time.DateTime.Timestamp
import NodeReport.Command.Run
import NodeReport.Store.Snapshot

/-! # The program

  Reads the arguments, the environment, the clock and the files that a command needs, runs the
  command, and prints and writes what it leaves behind.
-/

namespace NodeReport

/-- What is printed for a request for help. -/
def usageText : String :=
  "Request statistics reports for Arclink data nodes

Usage: reqlogstats <COMMAND>

Commands:
  daily    Render the daily report of every data node
  network  Render the monthly report for one network code
  init     Create an empty statistics database
"

/-- The files that a report reads or writes. -/
def Command.reportPaths (s : Surroundings) (arguments : ReportArguments) : List String :=
  match reportDate s.today arguments.date with
  | .ok date => databaseFor s arguments date :: arguments.output.toList
  | .error _ => []

/-- The files that a command reads or writes. -/
def Command.paths (s : Surroundings) : Command → List String
  | .init path _ => [path]
  | .daily _ arguments => reportPaths s arguments
  | .network _ arguments => reportPaths s arguments

/-- Whether a notice is shown. -/
def Command.shows (command : Command) (n : Notice) : Bool :=
  let verbose :=
    match command with
    | .daily _ a => a.verbose
    | .network _ a => a.verbose
    | .init _ v => v
  verbose || n.severity != .debug

/-! ### Input and output -/

/-- The present time. -/
def readClock : IO Instant := do
  let t ← Std.Time.Timestamp.now
  return t.toSecondsSinceUnixEpoch.val

/-- What the environment says about paths. -/
def readEnvironment : IO Environment := do
  let database ← IO.getEnv "REQLOGSTATS_DB"
  let directory ← IO.getEnv "REQLOGSTATS_DB_DIR"
  let home ← IO.getEnv "HOME"
  let dataHome ← IO.getEnv "XDG_DATA_HOME"
  return { database, directory, home, dataHome }

/-- Reads a file, if it is there; the directories above it are taken to be there. -/
def loadFile (files : FileSystem) (path : String) : IO FileSystem := do
  let place := Place.ofPath path
  let above := (List.range place.length).map place.take
  let files := above.foldl (fun files p => files.put p .directory) files
  try
    let text ← IO.FS.readFile path
    return files.put place (Snapshot.node text)
  catch _ => return files

/-- Writes a file that a command has changed. -/
def saveFile (before after : FileSystem) (path : String) : IO Unit := do
  let place := Place.ofPath path
  if before.at? place ≠ after.at? place then
    match after.at? place with
    | some (.file (.text s) _) => IO.FS.writeFile path s
    | some (.file (.database db mode) modified) =>
      IO.FS.writeFile path (Snapshot.write db mode modified)
    | _ => pure ()

/-- Makes the directory of a new statistics store. -/
def makeDirectoryOf (path : String) : IO Unit := do
  let directory := String.ofList (path.toList.reverse.dropWhile (· != '/')).reverse
  if !directory.isEmpty then IO.FS.createDirAll directory

/-- Runs a command on the files of this machine; the result is the exit code. -/
def Command.perform (command : Command) : IO UInt32 := do
  let now ← readClock
  let environment ← readEnvironment
  let paths := command.paths { files := {}, environment, now }
  let files ← paths.foldlM loadFile {}
  let noted := command.run { files, environment, now }
  for n in noted.notices do
    if command.shows n then IO.eprintln n.message
  IO.print noted.value.printed
  if let .init path _ := command then makeDirectoryOf path
  for path in paths do
    saveFile files noted.value.files path
  match noted.value.failure with
  | none => return 0
  | some e =>
    IO.eprintln ("Error: " ++ e.message)
    return 1

/-- Carries out what the arguments ask for; the result is the exit code. -/
def runProgram (args : List String) : IO UInt32 := do
  match Arguments.read args with
  | .error refusal =>
    if refusal.exitCode = 0 then IO.print usageText else IO.eprint usageText
    return refusal.exitCode.toUInt32
  | .ok command =>
    try command.perform
    catch e =>
      IO.eprintln ("Error: " ++ toString e)
      return 1

end NodeReport

/-- The program. -/
def main (args : List String) : IO UInt32 :=
  NodeReport.runProgram args

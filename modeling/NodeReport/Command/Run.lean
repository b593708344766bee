import NodeReport.Command.Arguments
import NodeReport.Command.Location
import NodeReport.Page.Rendering
import NodeReport.Store.DatabaseFile

/-! # Running a command

  A command sees files, an environment and the time. It gives back the files as it leaves them,
  what it prints, and why it failed, if it did.
-/

namespace NodeReport

/-- What a command sees. -/
structure Surroundings where
  /-- The files. -/
  files : FileSystem
  /-- What the environment says. -/
  environment : Environment := {}
  /-- The time. -/
  now : Instant

namespace Surroundings

/-- The day of the time. -/
def today (s : Surroundings) : Day :=
  (Instant.day? s.now).getD Day.greatest

end Surroundings

/-- Why a command fails. -/
inductive RunError where
  /-- The date is none. -/
  | date (e : Day.TextError)
  /-- Nothing is left of the network's code. -/
  | emptyCode
  /-- The store cannot be read. -/
  | store (e : StoreError)
  /-- The store cannot be set up. -/
  | setup (e : FileSystem.SetupError)
  /-- The report cannot be written. -/
  | output (e : FileError)
deriving DecidableEq

/-- The wording of an error. -/
def RunError.message : RunError → String
  | .date e => e.message
  | .emptyCode => "network code must contain letters or digits"
  | .store e => e.message
  | .setup e => e.message
  | .output e => e.message

/-- What a command leaves behind. -/
structure Outcome where
  /-- The files. -/
  files : FileSystem
  /-- What is printed. -/
  printed : String := ""
  /-- Why the command failed. -/
  failure : Option RunError := none

namespace Command

/-- The date of a report: the one that is asked for, else two days ago. -/
def reportDate (today : Day) : Option String → Except Day.TextError Day
  | some text => Day.clean text
  | none => .ok ((Day.offset? today today (-2)).getD today)

/-- A report, once its store is open. -/
abbrev ReportBuilder := ReportStore → Day → Option String → Noted Page

/-- A failure that leaves the files as they are. -/
def failed (s : Surroundings) (e : RunError) : Outcome :=
  { files := s.files, failure := some e }

/-- Prints a report or writes it to its file. -/
def emit (s : Surroundings) (arguments : ReportArguments) (page : Page) : Noted Outcome :=
  let text := page.render arguments.format
  match arguments.output with
  | none => pure { files := s.files, printed := text }
  | some path =>
    match s.files.writeText s.now path text with
    | .ok files => ⟨{ files }, [⟨.info, "Wrote report to " ++ path⟩]⟩
    | .error e => pure (failed s (.output e))

/-- The path of the database for a report on a day. -/
def databaseFor (s : Surroundings) (arguments : ReportArguments) (date : Day) : String :=
  Location.databasePath s.environment arguments.database arguments.directory date.year

/-- What is seen after a database was opened to be read. -/
def afterOpening (s : Surroundings) (path : String) : Surroundings :=
  { s with files := s.files.afterOpening s.now path }

/-- Makes a report and prints or writes it. -/
def runReport (s : Surroundings) (arguments : ReportArguments) (build : ReportBuilder) :
    Noted Outcome :=
  match reportDate s.today arguments.date with
  | .error e => pure (failed s (.date e))
  | .ok date => do
    let path := databaseFor s arguments date
    Noted.tell [⟨.info, "Reading statistics from " ++ path⟩]
    match s.files.openDatabase path with
    | .error e => pure (failed (afterOpening s path) (.store e))
    | .ok (db, modified) => do
      let page ← build db.reportStore date (Instant.text? modified)
      emit (afterOpening s path) arguments page

/-- Sets a statistics store up. -/
def runInit (s : Surroundings) (path : String) : Noted Outcome :=
  match s.files.initStore s.now path with
  | (files, .ok _) => ⟨{ files }, [⟨.info, "Initialised " ++ path⟩]⟩
  | (files, .error e) => pure { files, failure := some (.setup e) }

/-- Runs a command. -/
def run (s : Surroundings) : Command → Noted Outcome
  | .daily showAll arguments =>
    runReport s arguments fun store date updated =>
      Report.daily store s.today date showAll updated
  | .network text arguments =>
    let code := cleanCode text
    if code.isEmpty then pure (failed s .emptyCode)
    else
      runReport s arguments fun store date updated =>
        Report.network store s.today code date updated
  | .init path _ => runInit s path

end Command

end NodeReport

import NodeReport.Calendar.Window
import NodeReport.Notice
import NodeReport.Store.Select

/-! # Reading statistics

  What a report asks of a store: its sources, the rows of a kind of table, and who reported on
  which days. Each question may fail on its own. A database answers them by selections, each of
  which is noted.
-/

namespace NodeReport

/-- Why a question to a store has no answer. -/
inductive StoreError where
  /-- There is no such file. -/
  | unavailable (path : String)
  /-- The file cannot be used. -/
  | unusable (path : String) (cause : DatabaseError)
  /-- A statement failed. -/
  | query (statement : String) (cause : DatabaseError)
deriving DecidableEq

namespace StoreError

/-- The wording of an error. -/
def message : StoreError → String
  | .unavailable path => "database " ++ path ++ " not found or is corrupted"
  | .unusable path cause => "cannot open database " ++ path ++ ": " ++ cause.message
  | .query statement cause => cause.message ++ " (command: " ++ statement ++ ")"

/-- Whether nothing at all can be reported. -/
def isFatal : StoreError → Bool
  | .query _ _ => false
  | _ => true

end StoreError

/-- Which rows of a statistics table are wanted. -/
structure RowFilter where
  /-- The first day. -/
  firstDay : Option Day := none
  /-- The last day. -/
  lastDay : Option Day := none
  /-- The source, by its id. -/
  source : Option Int := none
  /-- The code of the network. -/
  network : Option String := none
deriving DecidableEq

namespace RowFilter

/-- The rows of some days. -/
def ofDays (first last : Day) : RowFilter :=
  { firstDay := some first, lastDay := some last }

/-- The rows of one day. -/
def ofDay (day : Day) : RowFilter :=
  ofDays day day

/-- The column with the code of a network. -/
def networkColumn : String := "networkCode"

/-- The conditions of a filter, in their fixed order. -/
def conditions (f : RowFilter) : List Condition :=
  (f.firstDay.map fun d => ⟨TableKind.dayColumn, .atLeast, .ofText d.text⟩).toList
    ++ (f.lastDay.map fun d => ⟨TableKind.dayColumn, .atMost, .ofText d.text⟩).toList
    ++ (f.source.map fun id => ⟨Table.sourceColumn, .equal, .integer id⟩).toList
    ++ (f.network.map fun code => ⟨networkColumn, .equal, .ofText code⟩).toList

end RowFilter

/-- An answer, or why there is none, with notices. -/
abbrev Answer (α : Type) := Noted (Except StoreError α)

/-- What a report asks of a store. -/
structure ReportStore where
  /-- The sources, in order of their ids. -/
  sources : Answer (List Source)
  /-- The rows of a table that a filter picks, in the order of some columns. -/
  fetchRows : TableKind → RowFilter → List String → Answer (List Row)
  /-- Whether a source reported on a day. -/
  hasReport : Day → Int → Answer Bool
  /-- The pairs of a source and a day between two days on which it reported. -/
  reportDays : Day → Day → Answer (List (Int × Day))

/-! ### Selections for the questions -/

namespace Question

/-- The sources. -/
def sources : Selection where
  projection := .columns ["id", "host", "port", "dcid"]
  table := Schema.sourceTable
  order := ["id"]

/-- The columns of an order that the table shows. -/
def knownOrder (kind : TableKind) (order : List String) : List String :=
  order.filter kind.header.contains

/-- The rows of a table. -/
def rows (kind : TableKind) (filter : RowFilter) (order : List String) : Selection where
  projection := .everything
  table := kind.storeName
  conditions := filter.conditions
  order := knownOrder kind order

/-- The notices about columns of an order that the table does not show. -/
def orderNotices (kind : TableKind) (order : List String) : List Notice :=
  (order.filter fun c => !kind.header.contains c).map fun c =>
    ⟨.warning, "Ignoring unknown sort column " ++ c ++ " for " ++ kind.name⟩

/-- The name under which reports are counted. -/
def countName : String := "reports"

/-- The number of reports of a source on a day. -/
def reportCount (day : Day) (source : Int) : Selection where
  projection := .count countName
  table := TableKind.storeName .summary
  conditions :=
    [⟨TableKind.dayColumn, .equal, .ofText day.text⟩,
      ⟨Table.sourceColumn, .equal, .integer source⟩]

/-- The sources and days with reports between two days. -/
def reportDays (first last : Day) : Selection where
  projection := .distinct [Table.sourceColumn, TableKind.dayColumn]
  table := TableKind.storeName .summary
  conditions := (RowFilter.ofDays first last).conditions

end Question

/-! ### Rows as answers -/

/-- The text of a row's cell; a missing one has the empty text. -/
def Row.textAt (row : Row) (column : String) : String :=
  ((row.get? column).map Cell.display).getD ""

/-- The whole number in a row's cell. -/
def Row.integerAt? (row : Row) (column : String) : Option Int :=
  (row.get? column).bind Cell.integer?

/-- The source that a row describes, if it has an id. -/
def Source.ofRow? (row : Row) : Option Source :=
  (row.integerAt? "id").map fun id =>
    { id
      host := row.textAt "host"
      port := (row.integerAt? "port").getD 0
      dcid := row.textAt "dcid" }

/-- The notice about a row without an id. -/
def skippedSource (row : Row) : Notice :=
  ⟨.warning, "Skipping source row without an id: " ++ row.diagnostic⟩

/-- The source and the day that a row of the summary names. -/
def reportPair? (row : Row) : Option (Int × Day) :=
  match row.integerAt? Table.sourceColumn, Day.parse (row.textAt TableKind.dayColumn) with
  | some source, .ok day => some (source, day)
  | _, _ => none

/-- The notice about a row that names no source or no day. -/
def skippedReport (row : Row) : Notice :=
  ⟨.warning, "Skipping malformed summary row: " ++ row.diagnostic⟩

/-- What the rows stand for, with a notice about each that stands for nothing. -/
def readRows {α : Type} (read? : Row → Option α) (skipped : Row → Notice) (rows : List Row) :
    Noted (List α) :=
  ⟨rows.filterMap read?, (rows.filter fun row => (read? row).isNone).map skipped⟩

/-- The pairs of a source and a day that rows of the summary name, each once. -/
def reportPairs (rows : List Row) : Noted (List (Int × Day)) :=
  (readRows reportPair? skippedReport rows).bind fun pairs => pure pairs.eraseDups

namespace Database

/-- The rows that a selection gives, after a notice of its statement. -/
def ask (db : Database) (s : Selection) : Answer (List Row) where
  value :=
    match s.run db with
    | .ok selected => .ok selected.toRows
    | .error e => .error (.query s.text e)
  notices := [⟨.debug, "SQL: " ++ s.text⟩]

/-- An answer made from the rows that a selection gives. -/
def askFor {α : Type} (db : Database) (s : Selection) (f : List Row → Noted α) : Answer α :=
  (db.ask s).bind fun
    | .ok rows => (f rows).bind fun a => ⟨.ok a, []⟩
    | .error e => ⟨.error e, []⟩

/-- Whether the counted rows are any. -/
def countIsPositive (rows : List Row) : Bool :=
  match rows with
  | row :: _ => decide (0 < (row.integerAt? Question.countName).getD 0)
  | [] => false

/-- The answers of a database. -/
def reportStore (db : Database) : ReportStore where
  sources := db.askFor Question.sources (readRows Source.ofRow? skippedSource)
  fetchRows kind filter order :=
    (Noted.tell (Question.orderNotices kind order)).bind fun _ =>
      db.ask (Question.rows kind filter order)
  hasReport day source :=
    db.askFor (Question.reportCount day source) fun rows => pure (countIsPositive rows)
  reportDays first last :=
    db.askFor (Question.reportDays first last) reportPairs

/-! ### Registering sources -/

/-- The selection of the id of a source. -/
def sourceIdOf (host : String) (port : Int) (dcid : String) : Selection where
  projection := .columns ["id"]
  table := Schema.sourceTable
  conditions :=
    [⟨"host", .equal, .ofText host⟩, ⟨"port", .equal, .integer port⟩,
      ⟨"dcid", .equal, .ofText dcid⟩]

/-- Values for the named columns of a table, and no value for the others. -/
def rowFor (shape : TableShape) (given : List (String × StoredValue)) : List StoredValue :=
  shape.columns.map fun c =>
    match given.find? fun (name, _) => sameName c.name name with
    | some (_, v) => v
    | none => .null

/-- Puts a source into the table of sources; the result is its id. -/
def addSource (db : Database) (host : String) (port : Int) (dcid : String) :
    Except DatabaseError (Database × Int) := do
  let given :=
    [("host", StoredValue.ofText host), ("port", .integer port), ("dcid", .ofText dcid)]
  match db.table? Schema.sourceTable with
  | none => throw (.noSuchTable Schema.sourceTable)
  | some t =>
    match given.find? fun (name, _) => (t.shape.columnIndex? name).isNone with
    | some (name, _) => throw (.noColumnNamed Schema.sourceTable name)
    | none => db.insertInto t (rowFor t.shape given)

/-- The id of a source, which is put in if it is new. -/
def lookupSource (db : Database) (host : String) (port : Int) (dcid : String) :
    Except DatabaseError (Database × Int) := do
  let found ← (sourceIdOf host port dcid).run db
  match found.rows with
  | [] => db.addSource host port dcid
  | row :: _ =>
    match row.headD .null with
    | .integer id => pure (db, id)
    | v => throw (.wrongKind v.kindName 0 (found.columns.headD "id"))

end Database

end NodeReport

import NodeReport.Availability
import NodeReport.Page.Basic
import NodeReport.Page.Link
import NodeReport.Store.ReportStore
import NodeReport.Table.Grouping

/-! # Reports

  The daily page shows the statistics of every data node for one day, and the page of a network
  its requests over a month beside the totals of all networks. A question to the store that fails
  shows in its own section only.
-/

namespace NodeReport

namespace Report

/-- The title of the daily page. -/
def pageTitle : String := "EIDA Arclink Request Statistics"

/-- The network whose page is shown if none is named. -/
def defaultNetwork : String := "GE"

/-! ### Sources -/

/-- The sources of a report, or why they are unknown. -/
structure KnownSources where
  /-- The sources; none if they are unknown. -/
  list : List Source
  /-- Why they are unknown. -/
  error : Option String

/-- The sources of a store, with a notice if they are unknown. -/
def knownSources (store : ReportStore) : Noted KnownSources := do
  match ← store.sources with
  | .ok sources => pure ⟨sources, none⟩
  | .error e =>
    Noted.tell [⟨.error, "Cannot list sources: " ++ e.message⟩]
    pure ⟨[], some e.message⟩

/-! ### Sections -/

/-- What a section with a table is about. -/
structure SectionPlan where
  /-- Its heading. -/
  title : String
  /-- Its name within the page, and the table's. -/
  anchor : String
  /-- The table's columns. -/
  header : List String
  /-- How the table is presented. -/
  options : TableOptions

/-- A section with the rows that were fetched for it, or why there are none. -/
def tableSection (plan : SectionPlan) (sources : List Source) :
    Except StoreError (List Row) → Section
  | .ok rows =>
    { title := plan.title
      anchor := plan.anchor
      table := Table.assemble plan.anchor plan.header rows plan.options sources
      options := plan.options }
  | .error e =>
    { title := plan.title
      anchor := plan.anchor
      error := some e.message
      table := { name := plan.anchor, header := plan.header } }

/-- The notices about a section. -/
def tableSectionNotices (plan : SectionPlan) (sources : List Source) :
    Except StoreError (List Row) → List Notice
  | .ok rows => Table.assembleNotices plan.header rows plan.options sources
  | .error e => [⟨.error, plan.title ++ ": " ++ e.message⟩]

/-- A section with a table, once its rows are fetched. -/
def fetchSection (plan : SectionPlan) (sources : List Source)
    (fetched : Noted (Except StoreError (List Row))) : Noted Section := do
  let rows ← fetched
  Noted.tell (tableSectionNotices plan sources rows)
  pure (tableSection plan sources rows)

/-- The heading of the calendar of a day's month. -/
def calendarTitle (date : Day) : String :=
  "Days with reports in " ++ date.monthText

/-- What is said above the calendar. -/
def calendarNote (date : Day) (count : Nat) : String :=
  "Reports included are from " ++ integerText count ++ " sources between "
    ++ date.monthStart.text ++ " to " ++ date.monthEnd.text ++ ":"

/-- The pairs of a source and a day in a window; nobody is asked about an empty one. -/
def reportsIn (store : ReportStore) (window : DayWindow) :
    Noted (Except StoreError (List (Int × Day))) :=
  if window.isEmpty then pure (.ok []) else store.reportDays window.first window.last

/-- The calendar of a day's month, given the reports in it. -/
def calendarSection (today date : Day) (sources : KnownSources)
    (reported : Except StoreError (List (Int × Day))) : Section :=
  let window := Day.monthWindow today date
  let (calendar, error) :=
    match reported with
    | .ok pairs => (Availability.ofPairs sources.list window pairs, sources.error)
    | .error e => (Availability.ofPairs [] window [], some e.message)
  { title := calendarTitle date
    anchor := "Availability"
    notes := [calendarNote date sources.list.length]
    error
    table := calendar.toTable
    options := calendar.toOptions dailyTarget }

/-- The calendar of a day's month. -/
def fetchCalendar (store : ReportStore) (today date : Day) (sources : KnownSources) :
    Noted Section := do
  let reported ← reportsIn store (Day.monthWindow today date)
  match reported with
  | .ok _ => pure ()
  | .error e => Noted.tell [⟨.error, calendarTitle date ++ ": " ++ e.message⟩]
  pure (calendarSection today date sources reported)

/-! ### The daily page -/

/-- A step to a neighbouring page, if there is one. -/
def neighbour (label : String) (target : Day → String) (day : Option Day) :
    List NavigationItem :=
  (day.map fun d => { label, target := some (target d) : NavigationItem }).toList

/-- The navigation of the daily page. -/
def dailyNavigation (today date : Day) : List NavigationItem :=
  neighbour "<< Prev" dailyTarget (Day.offset? today date (-1))
    ++ [{ label := "Summary statistics for " ++ date.text }]
    ++ neighbour "Next >>" dailyTarget (Day.offset? today date 1)

/-- The section of a kind of table on the daily page. -/
def dailyPlan (kind : TableKind) : SectionPlan where
  title := "Table " ++ kind.name
  anchor := "Table" ++ kind.name
  header := kind.header
  options := kind.options

/-- The section with the messages of the whole month. -/
def monthMessagesPlan : SectionPlan where
  title := "Table Messages this month"
  anchor := "TableMessages_this_month"
  header := TableKind.header .messages
  options := TableKind.options .messages

/-- The rows of a day's month. -/
def monthFilter (date : Day) : RowFilter :=
  RowFilter.ofDays date.monthStart date.monthEnd

/-- The statistics of every data node for one day. -/
def daily (store : ReportStore) (today date : Day) (showAll : Bool) (updated : Option String) :
    Noted Page := do
  Noted.tell [⟨.info, "Building daily report for " ++ date.text⟩]
  let sources ← knownSources store
  let calendar ← fetchCalendar store today date sources
  let tables ← Noted.each (fun kind =>
    fetchSection (dailyPlan kind) sources.list
      (store.fetchRows kind (RowFilter.ofDay date) [kind.sortColumn]))
    (TableKind.dailyTables showAll)
  let messages ← fetchSection monthMessagesPlan sources.list
    (store.fetchRows .messages (monthFilter date) [TableKind.dayColumn, "message"])
  pure {
    title := pageTitle
    updated
    navigation := dailyNavigation today date
    sections := calendar :: tables ++ [messages] }

/-! ### The page of a network -/

/-- The navigation of the page of a network. -/
def networkNavigation (today date : Day) (code : String) : List NavigationItem :=
  neighbour "<< Prev month" (networkTarget code) (Day.previousMonth? today date)
    ++ [{ label := "Monthly summary statistics for " ++ date.text }]
    ++ neighbour "Next month >>" (networkTarget code) (Day.nextMonth? today date)

/-- The section with the requests of a network. -/
def requestsPlan (code : String) : SectionPlan where
  title := "Table Requests for " ++ code ++ " this month"
  anchor := "TableReq_this_month" ++ code
  header := TableKind.header .network
  options := TableKind.options .network

/-- The section with the totals of all networks. -/
def networksPlan (date : Day) : SectionPlan where
  title := "Table Networks over the month"
  anchor := "TableNetworks"
  header := TableKind.networksHeader
  options :=
    { TableOptions.summing (TableKind.summable .network) with
      codeLink := some (networkTemplate date) }

/-- The column that counts the rows of a network. -/
def daysColumn : String := "days"

/-- The totals of all networks, from their rows. -/
def networkTotals (fetched : Noted (Except StoreError (List Row))) :
    Noted (Except StoreError (List Row)) := do
  match ← fetched with
  | .ok rows =>
    Noted.tell
      (totalsByNotices rows RowFilter.networkColumn (TableKind.summable .network))
    pure (.ok (totalsBy rows RowFilter.networkColumn daysColumn (TableKind.summable .network)))
  | .error e => pure (.error e)

/-- The requests of one network over a day's month, and the totals of all networks. -/
def network (store : ReportStore) (today : Day) (code : String) (date : Day)
    (updated : Option String) : Noted Page := do
  Noted.tell [⟨.info, "Building network report for " ++ code ++ " in " ++ date.monthText⟩]
  let sources ← knownSources store
  let requests ← fetchSection (requestsPlan code) sources.list
    (store.fetchRows .network { monthFilter date with network := some code }
      [TableKind.dayColumn, Table.sourceColumn])
  let networks ← fetchSection (networksPlan date) sources.list
    (networkTotals (store.fetchRows .network (monthFilter date) [RowFilter.networkColumn]))
  pure {
    title := pageTitle ++ " for network " ++ code
    updated
    navigation := networkNavigation today date code
    sections := [requests, networks] }

end Report

end NodeReport

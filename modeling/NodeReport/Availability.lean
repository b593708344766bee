import NodeReport.Calendar.Window
import NodeReport.Table.Basic

/-! # Availability

  Which sources reported on which days, as a grid with a row per source and a column per day, and
  as a calendar table.
-/

namespace NodeReport

/-- The grid of reports. -/
structure Availability where
  /-- The days, one per column. -/
  days : List Day
  /-- The sources, one per row. -/
  sources : List Source
  /-- Whether there is a report, by source and day. -/
  grid : List (List Bool)
deriving DecidableEq

namespace Availability

/-- Asks about every source and day in turn, and stops at the first failure. -/
def build {m : Type → Type} [Monad m] (sources : List Source) (window : DayWindow)
    (reported : Day → Int → m Bool) : m Availability := do
  let days := window.days
  let grid ← sources.mapM fun source => days.mapM fun day => reported day source.id
  pure ⟨days, sources, grid⟩

/-- The grid of a set of pairs of a source's id and a day. -/
def ofPairs (sources : List Source) (window : DayWindow) (reported : List (Int × Day)) :
    Availability where
  days := window.days
  sources := sources
  grid := sources.map fun source => window.days.map fun day => reported.contains (source.id, day)

/-- Whether there is a report, by the places of source and day. -/
def isPresent? (a : Availability) (source day : Nat) : Option Bool :=
  a.grid[source]?.bind fun row => row[day]?

/-- The texts of the days. -/
def dayLabels (a : Availability) : List String :=
  a.days.map Day.text

/-! ### Calendar table -/

/-- The column with the codes of the sources. -/
def nodeColumn : String := "EIDA NODE"

/-- The label of a day's column: the day of the month, with two digits. -/
def columnLabel (d : Day) : String :=
  String.ofList (paddedDigits 2 d.day)

/-- The row of a source. -/
def calendarRow (days : List Day) (source : Source) (present : List Bool) : Row :=
  (days.zip present).foldl (fun row (day, flag) => row.insert (columnLabel day) (.flag flag))
    (Keyed.empty.insert nodeColumn (.text source.dcid))

/-- The calendar: a row per source and a column per day of the month. -/
def toTable (a : Availability) : Table where
  name := "Availability"
  header := nodeColumn :: a.days.map columnLabel
  rows := (a.sources.zip a.grid).map fun (source, present) => calendarRow a.days source present

/-- The options of the calendar, with a link on each day's label. -/
def toOptions (a : Availability) (dayLink : Day → String) : TableOptions :=
  { headerLinks := Keyed.ofList (a.days.map fun day => (columnLabel day, dayLink day)) }

end Availability

end NodeReport

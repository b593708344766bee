import NodeReport.Table.Basic

/-! # Kinds of statistics tables

  The catalogue of the tables that are kept per data node and day: their columns, which of these
  have totals, and which tables reveal who asked for data.
-/

namespace NodeReport

/-- A kind of statistics table. -/
inductive TableKind where
  | summary
  | user
  | request
  | volume
  | station
  | network
  | messages
  | userIP
  | clientIP
deriving DecidableEq, Repr

namespace TableKind

/-- All kinds, in catalogue order. -/
def all : List TableKind :=
  [.summary, .user, .request, .volume, .station, .network, .messages, .userIP, .clientIP]

/-- The name of a kind. -/
def name : TableKind → String
  | .summary => "Summary"
  | .user => "User"
  | .request => "Request"
  | .volume => "Volume"
  | .station => "Station"
  | .network => "Network"
  | .messages => "Messages"
  | .userIP => "UserIP"
  | .clientIP => "ClientIP"

/-- The kind with this name. -/
def ofName? (name : String) : Option TableKind :=
  all.find? fun k => k.name == name

/-- The wording for a name that no kind has. -/
def unknownNameMessage : String := "Matching variant not found"

/-- The columns after the day and the source, of which the first is particular to the kind. -/
def ownColumns : TableKind → List String
  | .summary =>
    ["requests", "requests_with_errors", "error_count", "users", "stations", "total_lines",
      "total_size"]
  | .user => ["userID", "requests", "lines", "errors", "size"]
  | .request => ["type", "requests", "lines", "errors", "size"]
  | .volume => ["type", "requests", "lines", "errors", "size"]
  | .station =>
    ["streamID_networkCode", "streamID_stationCode", "stationID_locationCode",
      "stationID_channelCode", "requests", "lines", "errors", "size", "time"]
  | .network => ["networkCode", "requests", "lines", "nodata", "errors", "size"]
  | .messages => ["message", "count"]
  | .userIP => ["userIP", "requests", "lines", "errors", "size"]
  | .clientIP => ["clientIP", "requests", "lines", "errors", "size"]

/-- The column with the day of a row. -/
def dayColumn : String := "start_day"

/-- The columns that a report shows, in order. -/
def header (k : TableKind) : List String :=
  dayColumn :: Table.sourceColumn :: k.ownColumns

/-- The columns with a total. -/
def summable : TableKind → List String
  | .summary =>
    ["requests", "requests_with_errors", "error_count", "total_lines", "total_size"]
  | .user => ["requests", "lines", "errors", "size"]
  | .request => ["requests", "lines", "errors", "size"]
  | .volume => ["requests", "lines", "errors", "size"]
  | .network => ["requests", "lines", "nodata", "errors", "size"]
  | .userIP => ["requests", "lines", "errors"]
  | .clientIP => ["requests", "lines", "errors"]
  | .station => []
  | .messages => []

/-- The name of the table in the store. -/
def storeName (k : TableKind) : String :=
  "ArcStats" ++ k.name

/-- The column by which a day's rows are ordered: the first one after day and source. -/
def sortColumn : TableKind → String
  | .summary => "requests"
  | .user => "userID"
  | .request => "type"
  | .volume => "type"
  | .station => "streamID_networkCode"
  | .network => "networkCode"
  | .messages => "message"
  | .userIP => "userIP"
  | .clientIP => "clientIP"

theorem head?_ownColumns (k : TableKind) : k.ownColumns.head? = some k.sortColumn := by
  cases k <;> rfl

/-- Whether the table reveals who asked for data. -/
def isPrivate : TableKind → Bool
  | .user => true
  | .userIP => true
  | .clientIP => true
  | _ => false

/-- How a report presents the table. -/
def options (k : TableKind) : TableOptions :=
  TableOptions.summing k.summable

/-- The tables of the daily page, in page order: the private ones last, and only on request. -/
def dailyTables (showAll : Bool) : List TableKind :=
  all.filter (fun k => !k.isPrivate && k != .station) ++
    if showAll then all.filter isPrivate else []

/-- The header of the totals by network. -/
def networksHeader : List String :=
  ["networkCode", "days", "requests", "lines", "nodata", "errors", "size"]

end TableKind

end NodeReport

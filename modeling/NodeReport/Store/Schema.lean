import NodeReport.Store.Value
import NodeReport.Table.Kind

/-! # Shapes of stored tables

  The columns of a stored table and the rule that keeps its rows apart, and the shapes of the
  tables of a fresh statistics store.
-/

namespace NodeReport

/-- Names in a store are the same up to the case of ASCII letters. -/
def sameName (a b : String) : Bool :=
  a.toList.map Char.toLower == b.toList.map Char.toLower

/-- A column of a stored table. -/
structure Column where
  /-- Its name. -/
  name : String
  /-- The kind of values it prefers. -/
  affinity : Affinity := .anything
  /-- How its texts are compared. -/
  collation : Collation := .binary
  /-- Whether it must have a value. -/
  required : Bool := false
deriving DecidableEq

/-- What keeps the rows of a table apart. -/
inductive TableKey where
  /-- Nothing does. -/
  | unkeyed
  /-- The first column numbers the rows; a row without a number gets the next one. -/
  | numbered
  /-- No two rows have the same values in these columns. -/
  | unique (columns : List String)
deriving DecidableEq

/-- The shape of a stored table. -/
structure TableShape where
  /-- Its name. -/
  name : String
  /-- Its columns, in order. -/
  columns : List Column
  /-- What keeps its rows apart. -/
  key : TableKey := .unkeyed
deriving DecidableEq

namespace TableShape

/-- The place of a column. -/
def columnIndex? (shape : TableShape) (name : String) : Option Nat :=
  shape.columns.findIdx? fun c => sameName c.name name

/-- The value of a row in a column. -/
def valueIn (shape : TableShape) (name : String) (row : List StoredValue) : StoredValue :=
  match shape.columnIndex? name with
  | some i => row.getD i .null
  | none => .null

/-- The preferred kind of values of a column. -/
def affinityOf (shape : TableShape) (name : String) : Affinity :=
  match shape.columns.find? fun c => sameName c.name name with
  | some c => c.affinity
  | none => .anything

/-- How texts in a column are compared. -/
def collationOf (shape : TableShape) (name : String) : Collation :=
  match shape.columns.find? fun c => sameName c.name name with
  | some c => c.collation
  | none => .binary

/-- The order of two rows by some columns, the first difference deciding. -/
def orderBy (shape : TableShape) : List String → List StoredValue → List StoredValue → Ordering
  | [], _, _ => .eq
  | name :: rest, a, b =>
    ((shape.valueIn name a).order (shape.collationOf name) (shape.valueIn name b)).then
      (orderBy shape rest a b)

/-- A shape with columns for any values. -/
def untyped (name : String) (columns : List String) : TableShape :=
  { name, columns := columns.map fun c => { name := c } }

end TableShape

/-! ### The statistics store -/

namespace Schema

/-- The table of sources. -/
def sourceTable : String := "ArcStatsSource"

/-- A column of whole numbers. -/
def number (name : String) : Column := { name, affinity := .numeric }

/-- A column of texts. -/
def text (name : String) : Column := { name, affinity := .text }

/-- A column of any values. -/
def plain (name : String) : Column := { name }

/-- The same column, with a value in every row. -/
def needed (c : Column) : Column := { c with required := true }

/-- The shape of the table of sources. -/
def source : TableShape where
  name := sourceTable
  columns :=
    [number "id", needed (text "host"), needed (number "port"), needed (text "dcid"),
      text "description"]
  key := .numbered

/-- The columns of day and source, which every other table starts with. -/
def dayAndSource : List Column :=
  [needed (number TableKind.dayColumn), needed (number Table.sourceColumn)]

/-- The columns of a kind of table after day and source. -/
def ownColumns : TableKind → List Column
  | .summary =>
    [number "requests", number "requests_with_errors", number "error_count", number "users",
      number "stations", number "total_lines", number "total_size"]
  | .user => [text "userID", number "requests", number "lines", number "errors", plain "size"]
  | .request =>
    [text "type", number "requests", number "lines", number "nodata", number "errors",
      plain "size"]
  | .volume => [text "type", number "requests", number "lines", number "errors", plain "size"]
  | .station =>
    [text "streamID_networkCode", text "streamID_stationCode", text "stationID_locationCode",
      text "stationID_channelCode", number "requests", number "lines", number "errors",
      plain "size", text "time"]
  | .network =>
    [text "networkCode", number "requests", number "lines", number "nodata", number "errors",
      plain "size", text "time"]
  | .messages => [text "message", number "count"]
  | .userIP => [text "userIP", number "requests", number "lines", number "errors", plain "size"]
  | .clientIP =>
    [text "clientIP", number "requests", number "lines", number "errors", plain "size"]

/-- The shape of a kind of table; the summary has one row per day and source. -/
def ofKind (kind : TableKind) : TableShape where
  name := kind.storeName
  columns := dayAndSource ++ ownColumns kind
  key :=
    if kind = .summary then .unique [TableKind.dayColumn, Table.sourceColumn] else .unkeyed

/-- The shapes of a fresh statistics store. -/
def shapes : List TableShape :=
  source :: TableKind.all.map ofKind

end Schema

end NodeReport

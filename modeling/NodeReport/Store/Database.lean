import NodeReport.Store.DatabaseError
import NodeReport.Store.Schema
import NodeReport.Store.Selection

/-! # Databases

  A database is a list of tables with their rows. Rows are put in one at a time, each converted as
  its columns prefer and checked against what keeps rows apart; a row that fails leaves the
  database as it was. A table of the database's own holds the greatest number that each numbered
  table has ever given to a row.
-/

namespace NodeReport

/-! ### Tables -/

/-- A table with its rows. -/
structure StoredTable where
  /-- Its shape. -/
  shape : TableShape
  /-- Its rows, oldest first; numbered rows by their numbers. -/
  rows : List (List StoredValue) := []
  /-- The selections that meet its rows in an order of their own. -/
  plans : List Plan := []
deriving DecidableEq

namespace StoredTable

/-- The number of a row of a numbered table. -/
def numberOf (row : List StoredValue) : Int :=
  (row.headD .null).wholeNumber

/-- The greatest number of a row, or zero if there are no rows. -/
def greatestNumber (t : StoredTable) : Int :=
  (t.rows.getLast?.map numberOf).getD 0

/-- The number of a new row: the value given for it, or one more than every number before, where
    `last` is the greatest that is remembered. -/
def rowNumber (t : StoredTable) (last : Int) (given : StoredValue) : Except DatabaseError Int :=
  match Affinity.numeric.apply given with
  | .null =>
    if last = maxInt64 ∨ t.greatestNumber = maxInt64 then .error .full
    else .ok (max (last + 1) (t.greatestNumber + 1))
  | .integer n => .ok n
  | _ => .error .datatypeMismatch

/-- The first column that must have a value and has none. -/
def missingColumn? (columns : List Column) (row : List StoredValue) : Option Column :=
  ((columns.zip row).find? fun (c, v) => c.required && v == .null).map fun (c, _) => c

/-- The values of a row as their columns hold them. -/
def converted (columns : List Column) (row : List StoredValue) : List StoredValue :=
  (columns.zip row).map fun (c, v) => c.affinity.apply v

/-- Puts a row into the place that its number has. -/
def insertByNumber (row : List StoredValue) : List (List StoredValue) → List (List StoredValue)
  | [] => [row]
  | other :: rest =>
    if numberOf row < numberOf other then row :: other :: rest
    else other :: insertByNumber row rest

/-- Whether a row has the same values as another in some columns; a missing value is none. -/
def agreeIn (shape : TableShape) (columns : List String) (row other : List StoredValue) : Bool :=
  columns.all (fun c => shape.valueIn c row != .null) && shape.orderBy columns row other == .eq

/-- The table with one more row, and the number by which the row is known; `last` is the greatest
    number that is remembered. -/
def insertNumbered (t : StoredTable) (last : Int) (values : List StoredValue) :
    Except DatabaseError (StoredTable × Int) := do
  let number ←
    match t.shape.key with
    | .numbered => t.rowNumber last (values.headD .null)
    | _ => .ok (t.rows.length + 1)
  let row :=
    match t.shape.key with
    | .numbered => converted t.shape.columns (.integer number :: values.drop 1)
    | _ => converted t.shape.columns values
  match missingColumn? t.shape.columns row with
  | some c => .error (.missingValue t.shape.name c.name)
  | none =>
    match t.shape.key with
    | .unkeyed => .ok ({ t with rows := t.rows ++ [row] }, number)
    | .unique columns =>
      if t.rows.any (agreeIn t.shape columns row) then
        .error (.notUnique t.shape.name columns)
      else .ok ({ t with rows := t.rows ++ [row] }, number)
    | .numbered =>
      if t.rows.any fun other => numberOf other == number then
        .error (.notUnique t.shape.name ((t.shape.columns.take 1).map Column.name))
      else .ok ({ t with rows := insertByNumber row t.rows }, number)

end StoredTable

/-! ### Remembered numbers -/

namespace Sequence

/-- The table of remembered numbers: the name of a numbered table and its greatest number. -/
def shape : TableShape :=
  TableShape.untyped "sqlite_sequence" ["name", "seq"]

/-- Whether a row of remembered numbers is about a table. -/
def isAbout (name : String) (row : List StoredValue) : Bool :=
  row.headD .null == .ofText name

/-- The number that a row of remembered numbers holds. -/
def number (row : List StoredValue) : Int :=
  (row.getD 1 .null).wholeNumber

/-- The number that is remembered for a table; the first row about it counts. -/
def last (name : String) (rows : List (List StoredValue)) : Int :=
  ((rows.find? (isAbout name)).map number).getD 0

/-- The rows after a number was given to a row of a table. -/
def remember (name : String) (n : Int) : List (List StoredValue) → List (List StoredValue)
  | [] => [[.ofText name, .integer n]]
  | row :: rest =>
    if isAbout name row then
      if number row < n then [.ofText name, .integer n] :: rest else row :: rest
    else row :: remember name n rest

/-- The rows that are not about a table. -/
def forget (name : String) (rows : List (List StoredValue)) : List (List StoredValue) :=
  rows.filter fun row => !isAbout name row

end Sequence

/-! ### Databases -/

/-- A database. -/
structure Database where
  /-- Its tables, oldest first. -/
  tables : List StoredTable := []
deriving DecidableEq

namespace Database

instance : Inhabited Database := ⟨{}⟩

/-- The table with this name. -/
def table? (db : Database) (name : String) : Option StoredTable :=
  db.tables.find? fun t => sameName t.shape.name name

/-- The database with another table in place of the one with its name. -/
def replace (db : Database) (t : StoredTable) : Database where
  tables := db.tables.map fun old => if sameName old.shape.name t.shape.name then t else old

/-- The database without the table of this name. -/
def erase (db : Database) (name : String) : Database where
  tables := db.tables.filter fun t => !sameName t.shape.name name

/-- The rows of remembered numbers. -/
def remembered (db : Database) : List (List StoredValue) :=
  ((db.table? Sequence.shape.name).map StoredTable.rows).getD []

/-- The database with other rows of remembered numbers. -/
def setRemembered (db : Database) (rows : List (List StoredValue)) : Database :=
  db.replace { shape := Sequence.shape, rows }

/-- The database with an empty table of this shape, if it has none of the name. -/
def addTable (db : Database) (shape : TableShape) : Database :=
  if (db.table? shape.name).isSome then db else { tables := db.tables ++ [{ shape }] }

/-- The database with an empty table of this shape, if it has none of the name; the first numbered
    table brings the table of remembered numbers with it. -/
def addMissing (db : Database) (shape : TableShape) : Database :=
  if (db.table? shape.name).isSome then db
  else
    match shape.key with
    | .numbered => (db.addTable shape).addTable Sequence.shape
    | _ => db.addTable shape

/-- The database with every table of the statistics store. -/
def initialised (db : Database) : Database :=
  Schema.shapes.foldl addMissing db

/-- Puts a row into one of the tables; the result has the number by which the row is known. -/
def insertInto (db : Database) (t : StoredTable) (values : List StoredValue) :
    Except DatabaseError (Database × Int) := do
  let last := Sequence.last t.shape.name db.remembered
  let (t, number) ← t.insertNumbered last values
  let db := db.replace t
  match t.shape.key with
  | .numbered =>
    pure (db.setRemembered (Sequence.remember t.shape.name (max last number) db.remembered),
      number)
  | _ => pure (db, number)

/-- The database without one of its tables. -/
def remove (db : Database) (t : StoredTable) : Database :=
  let rest := db.erase t.shape.name
  match t.shape.key with
  | .numbered => rest.setRemembered (Sequence.forget t.shape.name rest.remembered)
  | _ => rest

end Database

end NodeReport

import NodeReport.Store.Database

/-! # Results of selections

  A selection of a database gives those rows of its table that satisfy the conditions, in the order
  of its columns, or some of their values, or only how many there are.
-/

namespace NodeReport

/-- Rows of values with the names of their columns. -/
structure Selected where
  /-- The names of the columns. -/
  columns : List String
  /-- The rows. -/
  rows : List (List StoredValue)
deriving DecidableEq

/-- A row with its cells under the names of their columns; the last one of a name wins. -/
def Selected.toRow (columns : List String) (values : List StoredValue) : Row :=
  Keyed.ofList ((columns.zip values).map fun (c, v) => (c, v.toCell))

/-- The rows with their cells under the names of their columns. -/
def Selected.toRows (s : Selected) : List Row :=
  s.rows.map (Selected.toRow s.columns)

namespace Selection

/-- Whether a row satisfies a condition; the bound value is converted as the column prefers and
    compared as its texts are, and nothing compares with a missing value. -/
def satisfies (shape : TableShape) (row : List StoredValue) (c : Condition) : Bool :=
  let value := shape.valueIn c.column row
  let bound := (shape.affinityOf c.column).apply c.value
  value != .null && bound != .null && c.comparison.accepts
    (value.order (shape.collationOf c.column) bound)

/-- Whether a row comes no later than another in the order of some columns. -/
def comesFirst (shape : TableShape) (columns : List String) (a b : List StoredValue) : Bool :=
  (shape.orderBy columns a b).isLE

/-- Whether the rows of a table without a plan are met in the order of the columns that keep them
    apart. They are if the first of these columns is compared; if only others are, any of them in the
    order is enough; and if none is, the first one has to lead the order. -/
def followsKey (s : Selection) (columns : List String) : Bool :=
  let isFirst (c : String) : Bool := columns.head?.any (sameName c)
  let isKey (c : String) : Bool := columns.any (sameName c)
  if s.conditions.any fun c => isFirst c.column then true
  else if s.conditions.any fun c => isKey c.column then s.order.any isKey
  else s.order.head?.any isFirst

/-- The rows that satisfy the conditions, as they are stored. -/
def satisfying (s : Selection) (t : StoredTable) : List (List StoredValue) :=
  t.rows.filter fun row => s.conditions.all (satisfies t.shape row)

/-- These rows in the order in which they are met, which is as the table plans it. -/
def met (s : Selection) (t : StoredTable) : List (List StoredValue) :=
  match t.plans.find? fun plan => plan.selection == s with
  | some plan => arrange plan.places (s.satisfying t)
  | none =>
    match t.shape.key with
    | .unique columns =>
      if s.followsKey columns then (s.satisfying t).mergeSort (comesFirst t.shape columns)
      else s.satisfying t
    | _ => s.satisfying t

/-- The rows that satisfy the conditions, in order; rows that the order does not tell apart stay
    as they were met. -/
def picked (s : Selection) (t : StoredTable) : List (List StoredValue) :=
  (s.met t).mergeSort (comesFirst t.shape s.order)

/-- The rows without those that have the same values in some columns as an earlier one. -/
def firstOfEach (shape : TableShape) (names : List String) (rows : List (List StoredValue)) :
    List (List StoredValue) :=
  rows.foldl (fun kept row =>
    if kept.any fun other => shape.orderBy names row other == .eq then kept else kept ++ [row])
    []

/-- The names under which a table has some columns. -/
def storedNames (shape : TableShape) (names : List String) : List String :=
  names.map fun name =>
    match shape.columns.find? fun c => sameName c.name name with
    | some c => c.name
    | none => name

/-- What a selection gives of the rows it picks. -/
def project (shape : TableShape) (rows : List (List StoredValue)) : Projection → Selected
  | .everything => ⟨shape.columns.map Column.name, rows⟩
  | .columns names =>
    ⟨storedNames shape names, rows.map fun row => names.map fun c => shape.valueIn c row⟩
  | .distinct names =>
    ⟨storedNames shape names,
      (firstOfEach shape names rows).map fun row => names.map fun c => shape.valueIn c row⟩
  | .count name => ⟨[name], [[.integer rows.length]]⟩

/-- The result of a selection. -/
def run (s : Selection) (db : Database) : Except DatabaseError Selected :=
  match db.table? s.table with
  | none => .error (.noSuchTable s.table)
  | some t =>
    match s.namedColumns.find? fun c => (t.shape.columnIndex? c).isNone with
    | some c => .error (.noSuchColumn c)
    | none => .ok (project t.shape (s.picked t) s.projection)

end Selection

end NodeReport

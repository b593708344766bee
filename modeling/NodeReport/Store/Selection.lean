import NodeReport.Store.Value

/-! # Selections

  A selection picks rows of one table: those that satisfy some conditions, in the order of some
  columns. It has a text, in which a question mark stands for each bound value. In which order it
  meets the rows before it puts them in order is up to the table, which may have a plan for it.
-/

namespace NodeReport

/-- How a column is compared with a bound value. -/
inductive Comparison where
  | equal
  | atLeast
  | atMost
deriving DecidableEq, Repr

namespace Comparison

/-- The sign of a comparison. -/
def sign : Comparison → String
  | .equal => "="
  | .atLeast => ">="
  | .atMost => "<="

/-- Whether an order of two values satisfies a comparison. -/
def accepts : Comparison → Ordering → Bool
  | .equal, o => o == .eq
  | .atLeast, o => o != .lt
  | .atMost, o => o != .gt

end Comparison

/-- A condition on a column. -/
structure Condition where
  /-- The column. -/
  column : String
  /-- How it is compared. -/
  comparison : Comparison
  /-- The bound value. -/
  value : StoredValue
deriving DecidableEq

/-- What a selection gives of the rows it picks. -/
inductive Projection where
  /-- Every column. -/
  | everything
  /-- Some columns. -/
  | columns (names : List String)
  /-- Some columns, equal rows once. -/
  | distinct (names : List String)
  /-- The number of rows, under a name. -/
  | count (name : String)
deriving DecidableEq

/-- A selection from one table. -/
structure Selection where
  /-- What it gives. -/
  projection : Projection
  /-- The table. -/
  table : String
  /-- The conditions, all of which a row must satisfy. -/
  conditions : List Condition := []
  /-- The columns by which the rows are ordered. -/
  order : List String := []
deriving DecidableEq

namespace Selection

/-! ### Text -/

/-- A name between the marks that keep it from being taken for a keyword. -/
def quoteName (name : String) : String :=
  "`" ++ name ++ "`"

/-- Names between marks, with commas. -/
def nameList (names : List String) : String :=
  ", ".intercalate (names.map quoteName)

/-- The text of what a selection gives. -/
def projectionText : Projection → String
  | .everything => "*"
  | .columns names => nameList names
  | .distinct names => "DISTINCT " ++ nameList names
  | .count name => "COUNT(*) AS " ++ quoteName name

/-- The text of a condition. -/
def conditionText (c : Condition) : String :=
  quoteName c.column ++ " " ++ c.comparison.sign ++ " ?"

/-- The statement of a selection. -/
def text (s : Selection) : String :=
  "SELECT " ++ projectionText s.projection ++ " FROM " ++ quoteName s.table
    ++ (if s.conditions.isEmpty then ""
      else " WHERE " ++ " AND ".intercalate (s.conditions.map conditionText))
    ++ (if s.order.isEmpty then "" else " ORDER BY " ++ nameList s.order)

/-! ### Columns -/

/-- The columns that a selection names, in the order in which they are looked up. -/
def namedColumns (s : Selection) : List String :=
  (match s.projection with
    | .columns names => names
    | .distinct names => names
    | _ => [])
    ++ s.conditions.map Condition.column ++ s.order

end Selection

/-! ### Plans -/

/-- Takes a member out of a list for each of some places, which are counted among the members that
    are left. Members without a place stay at the end, and nothing is taken from a place that is not
    there. -/
def arrange {α : Type} : List Nat → List α → List α
  | [], xs => xs
  | i :: places, xs =>
    match xs[i]? with
    | some x => x :: arrange places (xs.eraseIdx i)
    | none => arrange places xs

/-- The order in which the rows of a table are met by a selection. Indexes and what is known of
    the values in a table can bring about any order. -/
structure Plan where
  /-- The selection. -/
  selection : Selection
  /-- For each row that satisfies its conditions the place among those that are left. -/
  places : List Nat
deriving DecidableEq

end NodeReport

import NodeReport.Table.Source
import NodeReport.Table.Total

/-! # Tables

  A table has a header, rows, and perhaps totals. Assembling one takes the totals from the rows as
  they were stored, and then lays the rows out under the header.
-/

namespace NodeReport

/-- How a table is presented. -/
structure TableOptions where
  /-- Columns with a total. -/
  summable : NameSet := Keyed.empty
  /-- Where the codes of networks link to, with a gap for the code. -/
  codeLink : Option String := none
  /-- Where header labels link to. -/
  headerLinks : Keyed String := Keyed.empty
deriving DecidableEq

instance : Inhabited TableOptions := ⟨{}⟩

/-- The options of a table with totals of these columns. -/
def TableOptions.summing (columns : List String) : TableOptions :=
  { summable := NameSet.ofList columns }

/-- A table ready to be rendered. -/
structure Table where
  /-- What it holds. -/
  name : String
  /-- Column names, in order. -/
  header : List String
  /-- The rows, in order. -/
  rows : List Row := []
  /-- The totals, if there are any. -/
  sums : Option (Keyed Total) := none
deriving DecidableEq

namespace Table

/-- The cells of a row in order of the header; a missing one is null. -/
def cells (t : Table) (row : Row) : List Cell :=
  t.header.map fun column => (row.get? column).getD .null

/-- Beside each column of the header stands what the row holds under its name. -/
theorem zip_cells (t : Table) (row : Row) :
    t.header.zip (t.cells row) =
      t.header.map fun column => (column, (row.get? column).getD .null) :=
  List.map_prod_left_eq_zip.symm

/-- The column with the ids of sources. -/
def sourceColumn : String := "source"

/-- The cell shown for a stored row's column. -/
def shownCell (sources : List Source) (raw : Row) (column : String) : Cell :=
  match raw.get? column with
  | some cell => if column == sourceColumn then Source.labelCell sources cell else cell
  | none => .text Cell.placeholder

/-- The cells shown under a header; a cell that was shown once is not shown again. -/
def shownCells (sources : List Source) : List String → Row → List (String × Cell)
  | [], _ => []
  | column :: rest, raw =>
    (column, shownCell sources raw column) :: shownCells sources rest (raw.erase column)

/-- A stored row laid out under a header. -/
def shownRow (sources : List Source) (header : List String) (raw : Row) : Row :=
  Keyed.ofList (shownCells sources header raw)

/-- The table of stored rows: totals first, then the rows under the header. -/
def assemble (name : String) (header : List String) (rows : List Row) (options : TableOptions)
    (sources : List Source) : Table where
  name := name
  header := header
  rows := rows.map (shownRow sources header)
  sums :=
    if rows.isEmpty || options.summable.isEmpty then none
    else some (columnTotals rows options.summable)

/-- The notices about stored rows: those about totals, then those about sources. -/
def assembleNotices (header : List String) (rows : List Row) (options : TableOptions)
    (sources : List Source) : List Notice :=
  columnTotalsNotices rows options.summable ++
    rows.flatMap fun raw =>
      if header.contains sourceColumn then
        match raw.get? sourceColumn with
        | some cell => Source.labelNotices sources cell
        | none => []
      else []

end Table

end NodeReport

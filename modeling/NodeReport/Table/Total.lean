import NodeReport.ByteCount
import NodeReport.Notice
import NodeReport.Table.Cell

/-! # Column totals

  The total of a column is a byte count if any of its texts has a unit, else a floating-point
  number if any cell has a fraction, else a whole number. Whole totals stop at the ends of their
  range. Cells that are absent or no numbers add nothing.
-/

namespace NodeReport

/-- The total of a column. -/
inductive Total where
  /-- Of whole numbers. -/
  | count (n : Int)
  /-- Of numbers with fractions. -/
  | real (x : Binary64)
  /-- Of byte counts with units. -/
  | bytes (n : Nat)
deriving DecidableEq

namespace Total

/-- A total as reports show it. -/
def display : Total → String
  | .count n => integerText n
  | .real x => Decimal.render Decimal.shown x
  | .bytes n => formatBytes n

/-- A total as a cell; byte counts become their text. -/
def toCell : Total → Cell
  | .count n => .integer n
  | .real x => .real x
  | .bytes n => .text (formatBytes n)

end Total

namespace Cell

/-! ### What a cell adds -/

/-- A text that ends like a byte unit. -/
def hasByteUnit : Cell → Bool
  | .text s => NodeReport.hasByteUnit s
  | _ => false

/-- A number with a fraction, also one written as text. -/
def isFractional : Cell → Bool
  | .real x => x.isFractional
  | .text s =>
    let trimmed := Text.trim s.toList
    (readInt64? trimmed).isNone && (readBinary64? trimmed).any Binary64.isFractional
  | _ => false

/-- What a cell adds to a byte count. -/
def byteCount : Cell → Nat
  | .integer n => n.toNat
  | .real x => if x.isPositive then x.toNatUpTo maxNat64 else 0
  | .text s => parseBytesOrZero s
  | _ => 0

/-- What a cell adds to a total of numbers with fractions. -/
def realValue : Cell → Binary64
  | .integer n => Binary64.ofInt n
  | .real x => x
  | .text s => (readBinary64? (Text.trim s.toList)).getD (Binary64.zero false)
  | _ => Binary64.zero false

/-- What a cell adds to a total of whole numbers. -/
def countValue : Cell → Int
  | .integer n => n
  | .real x => x.toIntWithin minInt64 maxInt64
  | .text s =>
    let trimmed := Text.trim s.toList
    match readInt64? trimmed with
    | some n => n
    | none => ((readBinary64? trimmed).map (Binary64.toIntWithin minInt64 maxInt64)).getD 0
  | _ => 0

end Cell

/-! ### Totals -/

/-- A sum of byte counts, up to the greatest. -/
def addBytes (a b : Nat) : Nat :=
  min maxNat64 (a + b)

/-- A sum of whole numbers, within the range of 64 bits. -/
def addCount (a b : Int) : Int :=
  max minInt64 (min maxInt64 (a + b))

/-- The total of a column's cells. -/
def Total.ofCells (cells : List Cell) : Total :=
  if cells.any Cell.hasByteUnit then .bytes ((cells.map Cell.byteCount).foldl addBytes 0)
  else if cells.any Cell.isFractional then
    .real ((cells.map Cell.realValue).foldl (· + ·) (Binary64.zero true))
  else .count ((cells.map Cell.countValue).foldl addCount 0)

/-- The cells of a column, in order of rows; rows without one are left out. -/
def columnCells (rows : List Row) (column : String) : List Cell :=
  rows.filterMap fun row => row.get? column

/-- The totals of the given columns. -/
def columnTotals (rows : List Row) (columns : NameSet) : Keyed Total :=
  columns.mapEntries fun column _ => Total.ofCells (columnCells rows column)

/-! ### Notices -/

/-- Notice of a text in a column of byte counts that is none. -/
def unreadableCount (column : String) (e : ByteCountError) : Notice :=
  ⟨.warning, "Column " ++ column ++ ": " ++ e.message ++ "; counted as 0"⟩

/-- The notices about one column's cells. -/
def Total.notices (column : String) (cells : List Cell) : List Notice :=
  if cells.any Cell.hasByteUnit then
    cells.filterMap fun cell =>
      match cell with
      | .text s =>
        match parseBytes s with
        | .error e => some (unreadableCount column e)
        | .ok _ => none
      | _ => none
  else []

/-- The notices about the given columns, in order of columns and rows. -/
def columnTotalsNotices (rows : List Row) (columns : NameSet) : List Notice :=
  columns.names.flatMap fun column => Total.notices column (columnCells rows column)

end NodeReport

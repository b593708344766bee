import NodeReport.Notice
import NodeReport.Number.Reading
import NodeReport.Table.Cell
import NodeReport.Text.Basic

/-! # Sources

  A source is a data node whose request logs feed the statistics. Tables name it by its id, and
  reports by its short code.
-/

namespace NodeReport

/-- A data node. -/
structure Source where
  /-- Its number in the statistics. -/
  id : Int
  /-- Its host name. -/
  host : String
  /-- Its port. -/
  port : Int
  /-- Its short code. -/
  dcid : String
deriving DecidableEq

/-- The whole number in a cell, also one written as text. -/
def Cell.integer? : Cell → Option Int
  | .integer n => some n
  | .text s => readInt64? (Text.trim s.toList)
  | _ => none

namespace Source

/-- The short code of the last listed source with this id. -/
def code? (sources : List Source) (id : Int) : Option String :=
  (sources.reverse.find? fun s => s.id == id).map Source.dcid

/-- The short code for the cell of a source column. -/
def label? (sources : List Source) (raw : Cell) : Option String :=
  raw.integer?.bind (code? sources)

/-- The cell shown for a source column's cell; the placeholder if the source is unknown. -/
def labelCell (sources : List Source) (raw : Cell) : Cell :=
  .text ((label? sources raw).getD Cell.placeholder)

/-- The notice that a source is unknown. -/
def labelNotices (sources : List Source) (raw : Cell) : List Notice :=
  match label? sources raw with
  | some _ => []
  | none => [⟨.warning, "No source label for id " ++ raw.diagnostic⟩]

end Source

end NodeReport

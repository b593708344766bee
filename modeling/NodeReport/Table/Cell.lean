import NodeReport.Keyed
import NodeReport.Number.Decimal
import NodeReport.Text.Quoted

/-! # Cells and rows

  A cell is a value as the statistics hold it, or a mark of presence in a calendar. A row has cells
  under column names.
-/

namespace NodeReport

/-- One value of a table. -/
inductive Cell where
  /-- No value. -/
  | null
  /-- A whole number. -/
  | integer (n : Int)
  /-- A floating-point number. -/
  | real (x : Binary64)
  /-- A text. -/
  | text (s : String)
  /-- Presence or absence, in calendars. -/
  | flag (present : Bool)
deriving DecidableEq, Inhabited

/-- Cells under column names. -/
abbrev Row := Keyed Cell

namespace Cell

/-- Stands for a missing cell or an unknown source. -/
def placeholder : String := "??"

/-- A cell as reports show it. -/
def display : Cell → String
  | .null => ""
  | .integer n => integerText n
  | .real x => Decimal.render Decimal.shown x
  | .text s => s
  | .flag true => "Y"
  | .flag false => "N"

/-- A cell as diagnostics show it. -/
def diagnostic : Cell → String
  | .null => "Null"
  | .integer n => "Integer(" ++ integerText n ++ ")"
  | .real x => "Real(" ++ Decimal.render Decimal.diagnostic x ++ ")"
  | .text s => "Text(" ++ Text.quoted s ++ ")"
  | .flag true => "Flag(true)"
  | .flag false => "Flag(false)"

end Cell

/-- A row as diagnostics show it. -/
def Row.diagnostic (row : Row) : String :=
  "\x7b" ++ ", ".intercalate (row.entries.map fun (column, cell) =>
    Text.quoted column ++ ": " ++ cell.diagnostic) ++ "\x7d"

end NodeReport

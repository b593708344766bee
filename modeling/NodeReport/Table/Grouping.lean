import NodeReport.Table.Total

/-! # Totals by key

  Rows with the same text in their key column are collapsed into one row with the key, the number
  of rows, and the totals of some columns.
-/

namespace NodeReport

/-- The text by which a row is grouped; a row without the key column has the empty text. -/
def Row.groupText (key : String) (row : Row) : String :=
  ((row.get? key).map Cell.display).getD ""

/-- The texts of the groups, in order. -/
def groupTexts (rows : List Row) (key : String) : List String :=
  (NameSet.ofList (rows.map (Row.groupText key))).names

/-- The rows of a group, in their order. -/
def groupMembers (rows : List Row) (key text : String) : List Row :=
  rows.filter fun row => row.groupText key == text

/-- The row that stands for a group. -/
def groupRow (key countColumn : String) (columns : NameSet) (text : String) (members : List Row) :
    Row :=
  let base := (Keyed.empty.insert key (.text text)).insert countColumn (.integer members.length)
  base.insertAll ((columnTotals members columns).mapEntries fun _ total => total.toCell)

/-- One row per text of the key column, in order of these texts. -/
def totalsBy (rows : List Row) (key countColumn : String) (columns : List String) : List Row :=
  (groupTexts rows key).map fun text =>
    groupRow key countColumn (NameSet.ofList columns) text (groupMembers rows key text)

/-- The notices about the columns, group by group. -/
def totalsByNotices (rows : List Row) (key : String) (columns : List String) : List Notice :=
  (groupTexts rows key).flatMap fun text =>
    columnTotalsNotices (groupMembers rows key text) (NameSet.ofList columns)

end NodeReport

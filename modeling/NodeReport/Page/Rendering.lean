import NodeReport.Page.Html
import NodeReport.Page.JsonDocument
import NodeReport.Text.Width

/-! # Pages as plain text, and in each of the forms

  As plain text a table stands in a frame of box-drawing characters. A column is as wide as its
  widest line; numbers and totals stand at the right, everything else at the left. With this form
  and those of markup and of data a table or a page can be rendered in the one that is asked for.
-/

namespace NodeReport

namespace PlainText

/-- Where the text of a cell stands. -/
inductive Side where
  | left
  | right
deriving DecidableEq, Repr

/-- A cell with its lines. -/
structure Block where
  /-- Where its lines stand. -/
  side : Side
  /-- The lines. -/
  lines : List (List Char)

/-- A text at the left. -/
def leftBlock (s : String) : Block := ⟨.left, Text.split '\n' s.toList⟩

/-- A text at the right. -/
def rightBlock (s : String) : Block := ⟨.right, Text.split '\n' s.toList⟩

/-- The block of a cell. -/
def cellBlock : Cell → Block
  | .integer n => rightBlock (Cell.integer n).display
  | .real x => rightBlock (Cell.real x).display
  | other => leftBlock other.display

/-- The blocks of the row of totals. -/
def sumsBlocks (header : List String) (sums : Keyed Total) : List Block :=
  match header with
  | [] => []
  | _ :: rest =>
    leftBlock Html.sumsLabel :: rest.map fun column =>
      match sums.get? column with
      | some total => rightBlock total.display
      | none => leftBlock ""

/-- The blocks of a table below its header. -/
def bodyBlocks (t : Table) : List (List Block) :=
  t.rows.map (fun row => (t.cells row).map cellBlock)
    ++ (match t.sums with
      | some sums => [sumsBlocks t.header sums]
      | none => [])

/-! ### Frame -/

/-- Number of columns that a block takes. -/
def Block.width (b : Block) : Nat :=
  b.lines.foldl (fun w line => max w (Text.width line)) 0

/-- The widths of a table's columns, given its rows of blocks. -/
def columnWidths (count : Nat) (rows : List (List Block)) : List Nat :=
  (List.range count).map fun i =>
    rows.foldl (fun w row => max w ((row[i]?.map Block.width).getD 0)) 1

/-- One line of a block, filled up with spaces on the side where it does not stand. -/
def fillLine (b : Block) (width i : Nat) : List Char :=
  let line := b.lines.getD i []
  let space := List.replicate (width - Text.width line) ' '
  match b.side with
  | .left => line ++ space
  | .right => space ++ line

/-- A line of the frame between columns. -/
def ruleLine (left fill cross right : Char) (widths : List Nat) : List Char :=
  left :: [cross].intercalate (widths.map fun w => List.replicate (w + 2) fill) ++ [right]

/-- The lines of a row. -/
def rowLines (widths : List Nat) (blocks : List Block) : List (List Char) :=
  let height := blocks.foldl (fun h b => max h b.lines.length) 0
  (List.range height).map fun i =>
    '│' :: ['┆'].intercalate ((blocks.zip widths).map fun (b, w) => ' ' :: fillLine b w i ++ [' '])
      ++ ['│']

/-- The lines of a framed table. -/
def tableLines (t : Table) : List (List Char) :=
  let header := t.header.map leftBlock
  let rows := bodyBlocks t
  let widths := columnWidths t.header.length (header :: rows)
  ruleLine '╭' '─' '┬' '╮' widths :: rowLines widths header
    ++ ruleLine '╞' '═' '╪' '╡' widths :: rows.flatMap (rowLines widths)
    ++ [ruleLine '╰' '─' '┴' '╯' widths]

/-- The text of a table; its last line has no end. -/
def renderTable (t : Table) : String :=
  String.ofList (['\n'].intercalate (tableLines t))

/-! ### Pages -/

/-- The lines of a section. -/
def sectionLines (s : Section) : List String :=
  ["", s.title] ++ s.notes
    ++ (match s.error with
      | some e => ["Error: " ++ e]
      | none => [])
    ++ [renderTable s.table]

/-- The lines of a page. -/
def pageLines (p : Page) : List String :=
  [p.title]
    ++ (match p.updated with
      | some updated => ["Database last updated " ++ updated]
      | none => [])
    ++ (if p.navigation.isEmpty then []
      else [" | ".intercalate (p.navigation.map NavigationItem.label)])
    ++ p.sections.flatMap sectionLines

/-- The text of a page. -/
def renderPage (p : Page) : String :=
  String.join ((pageLines p).map fun line => line ++ "\n")

end PlainText

/-! ### The choice of a form -/

/-- The text of a table. -/
def Table.render (t : Table) (options : TableOptions) : Format → String
  | .html => Html.renderTable t options
  | .text => PlainText.renderTable t
  | .json => JsonDocument.renderTable t options

/-- The text of a page. -/
def Page.render (p : Page) : Format → String
  | .html => Html.renderPage p
  | .text => PlainText.renderPage p
  | .json => JsonDocument.renderPage p

end NodeReport

import NodeReport.Page.Basic
import NodeReport.Page.Link
import NodeReport.Text.Markup

/-! # Pages as HTML

  Tables and pages as lists of markup tokens. The shape of a page fixes its tags; every text of it
  goes through a text token or an attribute value.
-/

namespace NodeReport

open Text.MarkupToken (element)

/-- Markup, piece by piece. -/
abbrev Markup := List Text.MarkupToken

namespace Html

/-- The label of the row of totals. -/
def sumsLabel : String := "Column sums"

/-- The column whose texts may link to the page of a network. -/
def codeColumn : String := "networkCode"

/-- A text. -/
def text (s : String) : Markup := [.text s]

/-- The end of a line. -/
def newLine : Markup := [.text "\n"]

/-- A link around a text. -/
def link (target label : String) : Markup :=
  element "a" [("href", target)] (text label)

/-- A text, as a link if there is a target. -/
def maybeLink (target : Option String) (label : String) : Markup :=
  match target with
  | some target => link target label
  | none => text label

/-! ### Tables -/

/-- The content of a cell. -/
def cell (options : TableOptions) (column : String) : Cell → Markup
  | .flag true => element "span" [("style", "color: green")] (text "Y")
  | .flag false => element "span" [("style", "color: red")] (text "N")
  | .text s =>
    if column == codeColumn then maybeLink (options.codeLink.map fun t => codeTarget t s) s
    else text s
  | other => text other.display

/-- A header label. -/
def headerCell (options : TableOptions) (column : String) : Markup :=
  element "th" [] (maybeLink (options.headerLinks.get? column) column)

/-- A row of cells. -/
def row (options : TableOptions) (table : Table) (r : Row) : Markup :=
  text "  "
    ++ element "tr" [] ((table.header.zip (table.cells r)).flatMap fun (column, c) =>
      element "td" [] (cell options column c))
    ++ newLine

/-- The total of a column, or a blank. -/
def totalCell (sums : Keyed Total) (column : String) : Markup :=
  element "td" []
    (match sums.get? column with
    | some total => element "span" [("class", "col_total")] (text total.display)
    | none => [.blank])

/-- The row of totals: its label in place of the first column. -/
def sumsRow (header : List String) (sums : Keyed Total) : Markup :=
  text "  "
    ++ element "tr" [("class", "col_sums")]
      (match header with
      | [] => []
      | _ :: rest => element "td" [] (text sumsLabel) ++ rest.flatMap (totalCell sums))
    ++ newLine

/-- A table. -/
def table (t : Table) (options : TableOptions) : Markup :=
  element "table" [("width", "100%")]
      (text "\n  "
        ++ element "thead" [] (element "tr" [] (t.header.flatMap (headerCell options)))
        ++ text "\n  "
        ++ element "tbody" []
          (newLine
            ++ t.rows.flatMap (row options t)
            ++ (match t.sums with
              | some sums => sumsRow t.header sums
              | none => [])
            ++ text "  ")
        ++ newLine)
    ++ newLine

/-! ### Pages -/

/-- The style sheet of a page. -/
def styleSheet : String :=
  "
body \x7b font-family: sans-serif; margin: 1em 2em; \x7d
table \x7b border-collapse: collapse; \x7d
th, td \x7b padding: 2px 6px; border-bottom: 1px solid #ddd; text-align: left; \x7d
tr.col_sums td \x7b font-weight: bold; border-top: 2px solid #888; \x7d
span.col_total \x7b white-space: nowrap; \x7d
p.error \x7b color: #a00; font-family: monospace; \x7d
ol.nav li \x7b display: inline; margin-right: 1em; \x7d
"

/-- A paragraph on a line of its own. -/
def paragraph (attributes : List (String × String)) (s : String) : Markup :=
  element "p" attributes (text s) ++ newLine

/-- The navigation of a page. -/
def navigation (items : List NavigationItem) : Markup :=
  if items.isEmpty then []
  else
    element "table" []
        (element "tr" [] (items.flatMap fun item =>
          element "td" [] (maybeLink item.target item.label)))
      ++ newLine

/-- The list of sections of a page with more than one. -/
def contents (sections : List Section) : Markup :=
  if sections.length ≤ 1 then []
  else
    element "p" [] (text "Tables:")
      ++ element "ol" [("class", "nav")] (sections.flatMap fun s =>
        element "li" [] (link ("#" ++ s.anchor) s.title))
      ++ newLine

/-- A section. -/
def pageSection (s : Section) : Markup :=
  element "h2" [] (element "a" [("name", s.anchor)] [] ++ text s.title) ++ newLine
    ++ s.notes.flatMap (paragraph [])
    ++ (match s.error with
      | some e => paragraph [("class", "error")] e
      | none => [])
    ++ table s.table s.options

/-- What a page shows. -/
def body (p : Page) : Markup :=
  element "h1" [] (text p.title) ++ newLine
    ++ (match p.updated with
      | some updated => paragraph [] ("Database last updated " ++ updated)
      | none => [])
    ++ navigation p.navigation
    ++ contents p.sections
    ++ p.sections.flatMap pageSection

/-- A page as a whole document. -/
def page (p : Page) : Markup :=
  .doctype :: newLine
    ++ element "html" [("lang", "en")]
      (newLine
        ++ element "head" []
          (newLine
            ++ .opening "meta" [("charset", "UTF-8")] :: newLine
            ++ element "title" [] (text p.title) ++ newLine
            ++ element "style" [] (text styleSheet) ++ newLine)
        ++ newLine
        ++ element "body" [] (newLine ++ body p)
        ++ newLine)
    ++ newLine

/-- The text of a table as HTML. -/
def renderTable (t : Table) (options : TableOptions) : String :=
  Text.MarkupToken.render (table t options)

/-- The text of a page as HTML. -/
def renderPage (p : Page) : String :=
  Text.MarkupToken.render (page p)

end Html

end NodeReport

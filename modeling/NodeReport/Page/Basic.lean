import NodeReport.Table.Basic

/-! # Pages

  A page has a title, links to its neighbours, and sections with a table each. A section whose
  data could not be read keeps its table's header and says why.
-/

namespace NodeReport

/-- An entry of a page's navigation. -/
structure NavigationItem where
  /-- What it says. -/
  label : String
  /-- Where it leads, if anywhere. -/
  target : Option String := none
deriving DecidableEq

/-- A part of a page, with one table. -/
structure Section where
  /-- Its heading. -/
  title : String
  /-- Its name within the page. -/
  anchor : String
  /-- What is said above the table. -/
  notes : List String := []
  /-- Why the data could not be read. -/
  error : Option String := none
  /-- The table. -/
  table : Table
  /-- How the table is presented. -/
  options : TableOptions := {}
deriving DecidableEq

/-- A report. -/
structure Page where
  /-- Its heading. -/
  title : String
  /-- When the statistics were last changed. -/
  updated : Option String := none
  /-- The links to its neighbours. -/
  navigation : List NavigationItem := []
  /-- Its sections, in order. -/
  sections : List Section := []
deriving DecidableEq

/-- The form in which a page is written. -/
inductive Format where
  | html
  | text
  | json
deriving DecidableEq, Repr

end NodeReport

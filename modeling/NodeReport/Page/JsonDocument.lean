import NodeReport.Json
import NodeReport.Page.Basic

/-! # Pages as JSON

  Tables and pages as JSON values. What is absent from a page or a section is left out; the link
  of a table's codes is written as null.
-/

namespace NodeReport

namespace JsonDocument

/-- A cell as the JSON value of its kind. -/
def cell : Cell → Json
  | .null => .null
  | .integer n => .integer n
  | .real x => .real x
  | .text s => .string s
  | .flag b => .boolean b

/-- A total as a number, or as its text for byte counts. -/
def total : Total → Json
  | .count n => .integer n
  | .real x => .real x
  | .bytes n => .string (formatBytes n)

/-- A map as an object. -/
def keyed {α : Type} (f : α → Json) (m : Keyed α) : Json :=
  .object (m.entries.map fun e => (e.1, f e.2))

/-- A field that is left out where there is nothing. -/
def optionalField (name : String) : Option String → List (String × Json)
  | some s => [(name, .string s)]
  | none => []

/-- A table. -/
def table (t : Table) : Json :=
  .object
    ([("name", .string t.name), ("header", Json.strings t.header),
      ("rows", .array (t.rows.map (keyed cell)))]
      ++ (match t.sums with
        | some sums => [("sums", keyed total sums)]
        | none => []))

/-- The options of a table. -/
def options (o : TableOptions) : Json :=
  .object
    [("summable", Json.strings o.summable.names),
      ("link_codes",
        match o.codeLink with
        | some template => .string template
        | none => .null),
      ("header_links", keyed .string o.headerLinks)]

/-- A section. -/
def pageSection (s : Section) : Json :=
  .object
    ([("title", .string s.title), ("anchor", .string s.anchor), ("notes", Json.strings s.notes)]
      ++ optionalField "error" s.error
      ++ [("table", table s.table), ("options", options s.options)])

/-- An entry of the navigation. -/
def navigationItem (item : NavigationItem) : Json :=
  .object (("label", .string item.label) :: optionalField "href" item.target)

/-- A page. -/
def page (p : Page) : Json :=
  .object
    (("title", .string p.title) :: optionalField "updated" p.updated
      ++ [("navigation", .array (p.navigation.map navigationItem)),
        ("sections", .array (p.sections.map pageSection))])

/-- The text of a table and its options as JSON. -/
def renderTable (t : Table) (o : TableOptions) : String :=
  Json.render (.object [("table", table t), ("options", options o)])

/-- The text of a page as JSON. -/
def renderPage (p : Page) : String :=
  Json.render (page p)

end JsonDocument

end NodeReport

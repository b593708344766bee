import NodeReport.Page.Html
import NodeReport.Proofs.Text.Markup

/-! # What a reader finds on a page

  The skeleton of a page says how many sections, rows and columns there are, which of its texts are
  links and how cells are shown, but holds none of the texts. It fixes the tokens of the page up to
  the texts that fill its gaps, and a reader of the written page finds exactly these tokens with
  exactly these texts, whatever characters they are made of.
-/

namespace NodeReport

open Text (MarkupToken isMarkupName)
open Text.MarkupToken (element)

namespace Html

/-! ### Forms -/

/-- A token of a page, with a gap in place of what the skeleton does not tell. -/
inductive Form where
  /-- A token without a gap. -/
  | fixed (token : MarkupToken)
  /-- The start of an element with an attribute, whose value is a gap. -/
  | opening (name key : String)
  /-- A text, which is a gap. -/
  | text

/-- The tokens that forms give with texts in their gaps, if these are as many as the gaps. -/
def fill? : List Form → List String → Option Markup
  | [], [] => some []
  | .fixed token :: forms, contents => (fill? forms contents).map (token :: ·)
  | .opening name key :: forms, value :: contents =>
    (fill? forms contents).map (.opening name [(key, value)] :: ·)
  | .text :: forms, s :: contents => (fill? forms contents).map (.text s :: ·)
  -- a gap without a text, or a text without a gap
  | _, _ => none

/-- An element around some forms. -/
def wrap (name : String) (attributes : List (String × String)) (content : List Form) : List Form :=
  .fixed (.opening name attributes) :: content ++ [.fixed (.closing name)]

/-- A text that is the same on every page. -/
def constant (s : String) : List Form := [.fixed (.text s)]

/-- The end of a line. -/
def lineEnd : List Form := constant "\n"

/-- A text, or a link with its target and its text. -/
def maybeLinkForms (linked : Bool) : List Form :=
  if linked then [.opening "a" "href", .text, .fixed (.closing "a")] else [.text]

/-! ### Skeletons -/

/-- How a cell is shown. -/
inductive CellShape where
  /-- As the mark of presence. -/
  | present
  /-- As the mark of absence. -/
  | absent
  /-- As a text, which may be a link. -/
  | plain (linked : Bool)

/-- What is fixed of a table. -/
structure TableSkeleton where
  /-- For each column, whether its label is a link. -/
  header : List Bool
  /-- For each row, how its cells are shown. -/
  rows : List (List CellShape)
  /-- If there are totals, for each column behind the first whether it has one. -/
  sums : Option (List Bool)

/-- What is fixed of a section. -/
structure SectionSkeleton where
  /-- How many notes there are. -/
  notes : Nat
  /-- Whether there is an error. -/
  failed : Bool
  /-- The table. -/
  table : TableSkeleton

/-- What is fixed of a page. -/
structure PageSkeleton where
  /-- Whether it says when the statistics were last changed. -/
  updated : Bool
  /-- For each entry of the navigation, whether it is a link. -/
  navigation : List Bool
  /-- The sections. -/
  sections : List SectionSkeleton

namespace CellShape

/-- The forms of a cell. -/
def forms : CellShape → List Form
  | present => wrap "span" [("style", "color: green")] [.text]
  | absent => wrap "span" [("style", "color: red")] [.text]
  | plain linked => maybeLinkForms linked

end CellShape

namespace TableSkeleton

/-- The forms of a row. -/
def rowForms (cells : List CellShape) : List Form :=
  constant "  " ++ wrap "tr" [] (cells.flatMap fun c => wrap "td" [] c.forms) ++ lineEnd

/-- The forms of the total of a column. -/
def totalForms (present : Bool) : List Form :=
  wrap "td" []
    (if present then wrap "span" [("class", "col_total")] [.text] else [.fixed .blank])

/-- The forms of the row of totals; it has as many cells as the header. -/
def sumsForms (header totals : List Bool) : List Form :=
  constant "  "
    ++ wrap "tr" [("class", "col_sums")]
      (if header.isEmpty then []
        else wrap "td" [] (constant "Column sums") ++ totals.flatMap totalForms)
    ++ lineEnd

/-- The forms of a table. -/
def forms (t : TableSkeleton) : List Form :=
  wrap "table" [("width", "100%")]
      (constant "\n  "
        ++ wrap "thead" []
          (wrap "tr" [] (t.header.flatMap fun linked => wrap "th" [] (maybeLinkForms linked)))
        ++ constant "\n  "
        ++ wrap "tbody" []
          (lineEnd
            ++ t.rows.flatMap rowForms
            ++ (match t.sums with
              | some totals => sumsForms t.header totals
              | none => [])
            ++ constant "  ")
        ++ lineEnd)
    ++ lineEnd

end TableSkeleton

/-- The forms of a paragraph. -/
def paragraphForms (attributes : List (String × String)) : List Form :=
  wrap "p" attributes [.text] ++ lineEnd

/-- The forms of a section. -/
def SectionSkeleton.forms (s : SectionSkeleton) : List Form :=
  wrap "h2" [] ([.opening "a" "name", .fixed (.closing "a")] ++ [.text]) ++ lineEnd
    ++ (List.replicate s.notes (paragraphForms [])).flatten
    ++ (if s.failed then paragraphForms [("class", "error")] else [])
    ++ s.table.forms

namespace PageSkeleton

/-- The forms of the navigation. -/
def navigationForms (items : List Bool) : List Form :=
  if items.isEmpty then []
  else
    wrap "table" [] (wrap "tr" [] (items.flatMap fun linked =>
      wrap "td" [] (maybeLinkForms linked))) ++ lineEnd

/-- The forms of the list of sections. -/
def contentsForms (count : Nat) : List Form :=
  if count ≤ 1 then []
  else
    wrap "p" [] (constant "Tables:")
      ++ wrap "ol" [("class", "nav")]
        (List.replicate count (wrap "li" [] (maybeLinkForms true))).flatten
      ++ lineEnd

/-- The forms of what a page shows. -/
def bodyForms (p : PageSkeleton) : List Form :=
  wrap "h1" [] [.text] ++ lineEnd
    ++ (if p.updated then paragraphForms [] else [])
    ++ navigationForms p.navigation
    ++ contentsForms p.sections.length
    ++ p.sections.flatMap SectionSkeleton.forms

/-- The forms of a page. -/
def forms (p : PageSkeleton) : List Form :=
  .fixed .doctype :: lineEnd
    ++ wrap "html" [("lang", "en")]
      (lineEnd
        ++ wrap "head" []
          (lineEnd
            ++ .fixed (.opening "meta" [("charset", "UTF-8")]) :: lineEnd
            ++ wrap "title" [] [.text] ++ lineEnd
            ++ wrap "style" [] (constant styleSheet) ++ lineEnd)
        ++ lineEnd
        ++ wrap "body" [] (lineEnd ++ p.bodyForms)
        ++ lineEnd)
    ++ lineEnd

end PageSkeleton

/-! ### The skeleton of a page -/

/-- Where the text of a cell leads, if it is the code of a network on a table with links. -/
def cellTarget? (options : TableOptions) (column : String) : Cell → Option String
  | .text s => if column = "networkCode" then options.codeLink.map fun t => codeTarget t s else none
  | _ => none

/-- How a cell of a table is shown. -/
def cellShape (options : TableOptions) (column : String) : Cell → CellShape
  | .flag true => .present
  | .flag false => .absent
  | c => .plain (cellTarget? options column c).isSome

/-- The skeleton of a table. -/
def tableSkeleton (t : Table) (options : TableOptions) : TableSkeleton where
  header := t.header.map fun column => (options.headerLinks.get? column).isSome
  rows := t.rows.map fun r => t.header.map fun column =>
    cellShape options column ((r.get? column).getD .null)
  sums := t.sums.map fun sums => t.header.tail.map fun column => (sums.get? column).isSome

/-- The skeleton of a section. -/
def sectionSkeleton (s : Section) : SectionSkeleton where
  notes := s.notes.length
  failed := s.error.isSome
  table := tableSkeleton s.table s.options

/-- The skeleton of a page. -/
def pageSkeleton (p : Page) : PageSkeleton where
  updated := p.updated.isSome
  navigation := p.navigation.map fun item => item.target.isSome
  sections := p.sections.map sectionSkeleton

/-! ### The texts of a page -/

/-- The target of a link, if there is one, and its text. -/
def linkContents (target : Option String) (label : String) : List String :=
  target.toList ++ [label]

/-- The texts of a table: its labels, for each row what it holds under each column of the header, or
    null, and the totals of the columns that have one, the first column apart. -/
def tableContents (t : Table) (options : TableOptions) : List String :=
  t.header.flatMap (fun column => linkContents (options.headerLinks.get? column) column)
    ++ t.rows.flatMap (fun r => t.header.flatMap fun column =>
      let c := (r.get? column).getD .null
      linkContents (cellTarget? options column c) c.display)
    ++ (match t.sums with
      | some sums =>
        t.header.tail.flatMap fun column => ((sums.get? column).map Total.display).toList
      | none => [])

/-- The texts of a section. -/
def sectionContents (s : Section) : List String :=
  [s.anchor, s.title] ++ s.notes ++ s.error.toList ++ tableContents s.table s.options

/-- The texts of a page, targets of links among them, in the order in which they are met. -/
def pageContents (p : Page) : List String :=
  [p.title, p.title]
    ++ (p.updated.map fun updated => "Database last updated " ++ updated).toList
    ++ p.navigation.flatMap (fun item => linkContents item.target item.label)
    ++ (if p.sections.length ≤ 1 then []
      else p.sections.flatMap fun s => linkContents (some ("#" ++ s.anchor)) s.title)
    ++ p.sections.flatMap sectionContents

/-! ### Filling gaps -/

/-- Tokens that come from forms with texts in their gaps, with names that can be read. -/
structure Fits (forms : List Form) (contents : List String) (tokens : Markup) : Prop where
  /-- The texts fill the gaps. -/
  fill_eq : fill? forms contents = some tokens
  /-- Every name can be told from what follows it. -/
  named : ∀ t ∈ tokens, t.isNamed = true

namespace Fits

variable {forms others : List Form} {contents more : List String} {tokens rest : Markup}

theorem nil : Fits [] [] [] :=
  ⟨rfl, by simp⟩

/-- Forms that follow each other are filled one after the other. -/
theorem append (h : Fits forms contents tokens) (h' : Fits others more rest) :
    Fits (forms ++ others) (contents ++ more) (tokens ++ rest) := by
  refine ⟨?_, ?_⟩
  · have hfill := h.fill_eq
    clear h
    induction forms, contents using fill?.induct generalizing tokens with
    | case1 =>
      cases hfill
      exact h'.fill_eq
    | case2 token forms contents ih | case3 name key forms value contents ih
    | case4 forms s contents ih =>
      rw [fill?] at hfill
      obtain ⟨filled, hfilled, rfl⟩ := Option.map_eq_some_iff.mp hfill
      simp only [List.cons_append]
      rw [fill?, ih hfilled]
      rfl
    | case5 forms contents =>
      rw [fill?] at hfill
      · cases hfill
      all_goals assumption
  · intro t ht
    rcases List.mem_append.mp ht with ht | ht
    · exact h.named t ht
    · exact h'.named t ht

/-- Tokens without a gap in front. -/
theorem fixed_append (h : Fits forms [] tokens) (h' : Fits others more rest) :
    Fits (forms ++ others) more (tokens ++ rest) :=
  h.append h'

/-- Tokens without a gap behind. -/
theorem append_fixed (h : Fits forms contents tokens) (h' : Fits others [] rest) :
    Fits (forms ++ others) contents (tokens ++ rest) := by
  have hall := h.append h'
  rwa [List.append_nil] at hall

theorem flatMap {α : Type} {forms : α → List Form} {contents : α → List String}
    {tokens : α → Markup} {xs : List α} (h : ∀ x ∈ xs, Fits (forms x) (contents x) (tokens x)) :
    Fits (xs.flatMap forms) (xs.flatMap contents) (xs.flatMap tokens) := by
  induction xs with
  | nil => exact nil
  | cons x xs ih =>
    rw [List.flatMap_cons, List.flatMap_cons, List.flatMap_cons]
    exact (h x (by simp)).append (ih fun y hy => h y (by simp [hy]))

/-- Members of a list that all have the same forms. -/
theorem replicate {α : Type} {contents : α → List String} {tokens : α → Markup} {xs : List α}
    (h : ∀ x ∈ xs, Fits forms (contents x) (tokens x)) :
    Fits (List.replicate xs.length forms).flatten (xs.flatMap contents) (xs.flatMap tokens) := by
  rw [← List.map_const', ← List.flatMap_def]
  exact flatMap h

theorem fixed {token : MarkupToken} (h : token.isNamed = true) : Fits [.fixed token] [] [token] :=
  ⟨rfl, by simpa using h⟩

theorem constant (s : String) : Fits (Html.constant s) [] (Html.text s) :=
  fixed rfl

theorem lineEnd : Fits Html.lineEnd [] newLine :=
  fixed rfl

theorem text (s : String) : Fits [.text] [s] (Html.text s) :=
  ⟨rfl, by simp [Html.text, MarkupToken.isNamed]⟩

theorem opening {name key : String} (hname : isMarkupName name = true)
    (hkey : isMarkupName key = true) (value : String) :
    Fits [.opening name key] [value] [.opening name [(key, value)]] :=
  ⟨rfl, by simp [MarkupToken.isNamed, hname, hkey]⟩

/-- An element fits its forms if its content does. -/
theorem wrap {name : String} {attributes : List (String × String)}
    (hnamed : (MarkupToken.opening name attributes).isNamed = true)
    (h : Fits forms contents tokens) :
    Fits (Html.wrap name attributes forms) contents (element name attributes tokens) :=
  have hclosing : (MarkupToken.closing name).isNamed = true := (Bool.and_eq_true_iff.mp hnamed).1
  append_fixed (fixed_append (fixed hnamed) h) (fixed hclosing)

/-- A text is a gap, and a link has one more for its target. -/
theorem maybeLink (target : Option String) (label : String) :
    Fits (maybeLinkForms target.isSome) (linkContents target label)
      (Html.maybeLink target label) := by
  cases target with
  | none => exact text label
  | some target =>
    -- the target is met first, in the tag that opens the link
    exact (opening (by decide) (by decide) target).append ((text label).append (fixed (by decide)))

theorem paragraph {attributes : List (String × String)}
    (hnamed : (MarkupToken.opening "p" attributes).isNamed = true) (s : String) :
    Fits (paragraphForms attributes) [s] (Html.paragraph attributes s) :=
  append_fixed (wrap hnamed (text s)) lineEnd

end Fits

/-! ### Tables -/

theorem fits_cell (options : TableOptions) (column : String) (c : Cell) :
    Fits (cellShape options column c).forms (linkContents (cellTarget? options column c) c.display)
      (cell options column c) := by
  cases c with
  | flag present =>
    cases present with
    | true => exact .wrap (by decide) (.text "Y")
    | false => exact .wrap (by decide) (.text "N")
  | text s =>
    have hcell : cell options column (.text s) =
        maybeLink (cellTarget? options column (.text s)) s := by
      unfold cell cellTarget?
      by_cases h : column = codeColumn
      · simp [h, codeColumn]
      · simp_all [codeColumn, maybeLink]
    rw [hcell]
    exact .maybeLink _ s
  | null => exact .maybeLink none _
  | integer n => exact .maybeLink none _
  | real x => exact .maybeLink none _

theorem fits_row (options : TableOptions) (t : Table) (r : Row) :
    Fits (TableSkeleton.rowForms (t.header.map fun column =>
        cellShape options column ((r.get? column).getD .null)))
      (t.header.flatMap fun column =>
        let c := (r.get? column).getD .null
        linkContents (cellTarget? options column c) c.display)
      (row options t r) := by
  unfold TableSkeleton.rowForms row
  rw [Table.zip_cells, List.flatMap_map, List.flatMap_map]
  refine .append_fixed (.fixed_append (.constant "  ") (.wrap (by decide) (.flatMap ?_))) .lineEnd
  intro column _
  exact .wrap (by decide) (fits_cell options column ((r.get? column).getD .null))

theorem fits_totalCell (sums : Keyed Total) (column : String) :
    Fits (TableSkeleton.totalForms (sums.get? column).isSome)
      ((sums.get? column).map Total.display).toList (totalCell sums column) := by
  unfold TableSkeleton.totalForms totalCell
  refine .wrap (by decide) ?_
  cases sums.get? column with
  | some total => exact .wrap (by decide) (.text total.display)
  | none => exact .fixed rfl

theorem fits_sumsRow (header : List String) (sums : Keyed Total) (linked : String → Bool) :
    Fits (TableSkeleton.sumsForms (header.map linked)
        (header.tail.map fun column => (sums.get? column).isSome))
      (header.tail.flatMap fun column => ((sums.get? column).map Total.display).toList)
      (sumsRow header sums) := by
  unfold TableSkeleton.sumsForms sumsRow
  refine .append_fixed (.fixed_append (.constant "  ") (.wrap (by decide) ?_)) .lineEnd
  cases header with
  | nil => exact .nil
  | cons first header =>
    -- the label stands under the first column, whose total is not shown
    refine .fixed_append (.wrap (by decide) (.constant sumsLabel)) ?_
    rw [List.tail_cons, List.flatMap_map]
    exact .flatMap fun column _ => fits_totalCell sums column

theorem fits_table (t : Table) (options : TableOptions) :
    Fits (tableSkeleton t options).forms (tableContents t options) (table t options) := by
  have hheader : Fits (wrap "tr" [] ((tableSkeleton t options).header.flatMap fun linked =>
        wrap "th" [] (maybeLinkForms linked)))
      (t.header.flatMap fun column => linkContents (options.headerLinks.get? column) column)
      (element "tr" [] (t.header.flatMap (headerCell options))) := by
    refine .wrap (by decide) ?_
    unfold tableSkeleton
    rw [List.flatMap_map]
    exact .flatMap fun column _ => .wrap (by decide) (.maybeLink _ column)
  have hrows : Fits ((tableSkeleton t options).rows.flatMap TableSkeleton.rowForms)
      (t.rows.flatMap fun r => t.header.flatMap fun column =>
        let c := (r.get? column).getD .null
        linkContents (cellTarget? options column c) c.display)
      (t.rows.flatMap (row options t)) := by
    unfold tableSkeleton
    rw [List.flatMap_map]
    exact .flatMap fun r _ => fits_row options t r
  have hsums : Fits (match (tableSkeleton t options).sums with
        | some totals => TableSkeleton.sumsForms (tableSkeleton t options).header totals
        | none => [])
      (match t.sums with
        | some sums =>
          t.header.tail.flatMap fun column => ((sums.get? column).map Total.display).toList
        | none => [])
      (match t.sums with
        | some sums => sumsRow t.header sums
        | none => []) := by
    unfold tableSkeleton
    cases t.sums with
    | some sums => exact fits_sumsRow t.header sums _
    | none => exact .nil
  -- the texts come in the order header, rows, totals; all else between them is fixed
  have hbody := (Fits.lineEnd.fixed_append hrows).append hsums
  unfold TableSkeleton.forms tableContents table
  rw [List.append_assoc (List.flatMap _ t.header)]
  refine .append_fixed (.wrap (by decide) (.append_fixed (.append ?_ ?_) .lineEnd)) .lineEnd
  · exact .append_fixed (.fixed_append (.constant "\n  ") (.wrap (by decide) hheader))
      (.constant "\n  ")
  · exact .wrap (by decide) (hbody.append_fixed (.constant "  "))

/-! ### Sections -/

theorem fits_pageSection (s : Section) :
    Fits (sectionSkeleton s).forms (sectionContents s) (pageSection s) := by
  have hheading : Fits
      (wrap "h2" [] ([.opening "a" "name", .fixed (.closing "a")] ++ [.text]) ++ lineEnd)
      [s.anchor, s.title]
      (element "h2" [] (element "a" [("name", s.anchor)] [] ++ text s.title) ++ newLine) := by
    have hanchor : Fits [.opening "a" "name", .fixed (.closing "a")] [s.anchor]
        (element "a" [("name", s.anchor)] []) :=
      .append_fixed (.opening (by decide) (by decide) s.anchor) (.fixed (by decide))
    exact .append_fixed (.wrap (by decide) (hanchor.append (.text s.title))) .lineEnd
  have hnotes : Fits (List.replicate s.notes.length (paragraphForms [])).flatten s.notes
      (s.notes.flatMap (paragraph [])) := by
    have hall : Fits (List.replicate s.notes.length (paragraphForms [])).flatten
        (s.notes.flatMap fun note => [note]) (s.notes.flatMap (paragraph [])) :=
      .replicate fun note _ => .paragraph (by decide) note
    rwa [List.flatMap_singleton'] at hall
  unfold SectionSkeleton.forms sectionContents pageSection
  refine .append (.append (.append hheading hnotes) ?_) (fits_table s.table s.options)
  unfold sectionSkeleton
  cases s.error with
  | some e => exact .paragraph (by decide) e
  | none => exact .nil

/-! ### Pages -/

theorem fits_navigation (items : List NavigationItem) :
    Fits (PageSkeleton.navigationForms (items.map fun item => item.target.isSome))
      (items.flatMap fun item => linkContents item.target item.label) (navigation items) := by
  unfold PageSkeleton.navigationForms navigation
  cases items with
  | nil => exact .nil
  | cons item items =>
    refine .append_fixed (.wrap (by decide) (.wrap (by decide) ?_)) .lineEnd
    rw [List.flatMap_map]
    exact .flatMap fun item _ => .wrap (by decide) (.maybeLink item.target item.label)

theorem fits_contents (sections : List Section) :
    Fits (PageSkeleton.contentsForms sections.length)
      (if sections.length ≤ 1 then []
        else sections.flatMap fun s => linkContents (some ("#" ++ s.anchor)) s.title)
      (contents sections) := by
  unfold PageSkeleton.contentsForms contents
  by_cases h : sections.length ≤ 1
  · rw [if_pos h, if_pos h, if_pos h]
    exact .nil
  · rw [if_neg h, if_neg h, if_neg h]
    refine .append_fixed
      (.fixed_append (.wrap (by decide) (.constant "Tables:")) (.wrap (by decide) ?_)) .lineEnd
    exact .replicate fun s _ => .wrap (by decide) (.maybeLink (some ("#" ++ s.anchor)) s.title)

theorem fits_body (p : Page) :
    Fits (pageSkeleton p).bodyForms
      ([p.title] ++ (p.updated.map fun updated => "Database last updated " ++ updated).toList
        ++ p.navigation.flatMap (fun item => linkContents item.target item.label)
        ++ (if p.sections.length ≤ 1 then []
          else p.sections.flatMap fun s => linkContents (some ("#" ++ s.anchor)) s.title)
        ++ p.sections.flatMap sectionContents)
      (body p) := by
  have hsections : Fits ((pageSkeleton p).sections.flatMap SectionSkeleton.forms)
      (p.sections.flatMap sectionContents) (p.sections.flatMap pageSection) := by
    unfold pageSkeleton
    rw [List.flatMap_map]
    exact .flatMap fun s _ => fits_pageSection s
  have hcontents : Fits (PageSkeleton.contentsForms (pageSkeleton p).sections.length)
      (if p.sections.length ≤ 1 then []
        else p.sections.flatMap fun s => linkContents (some ("#" ++ s.anchor)) s.title)
      (contents p.sections) := by
    have hlength : (pageSkeleton p).sections.length = p.sections.length := List.length_map ..
    rw [hlength]
    exact fits_contents p.sections
  unfold PageSkeleton.bodyForms body
  refine .append (.append (.append (.append ?_ ?_) ?_) hcontents) hsections
  · exact .append_fixed (.wrap (by decide) (.text p.title)) .lineEnd
  · unfold pageSkeleton
    cases p.updated with
    | some updated => exact .paragraph (by decide) _
    | none => exact .nil
  · exact fits_navigation p.navigation

theorem fits_page (p : Page) : Fits (pageSkeleton p).forms (pageContents p) (page p) := by
  have hmeta : Fits (lineEnd ++ .fixed (.opening "meta" [("charset", "UTF-8")]) :: lineEnd) []
      (newLine ++ .opening "meta" [("charset", "UTF-8")] :: newLine) :=
    .fixed_append .lineEnd (.fixed_append (.fixed (by decide)) .lineEnd)
  have htitle : Fits (wrap "title" [] [.text]) [p.title] (element "title" [] (text p.title)) :=
    .wrap (by decide) (.text p.title)
  have hstyle : Fits (wrap "style" [] (constant styleSheet)) []
      (element "style" [] (text styleSheet)) := .wrap (by decide) (.constant styleSheet)
  have hhead := (((hmeta.fixed_append htitle).append_fixed .lineEnd).append_fixed
    hstyle).append_fixed .lineEnd
  have hbody := Fits.lineEnd.fixed_append (fits_body p)
  -- the title is read twice, in the head and as the first text of the body
  have hcontents : pageContents p = [p.title] ++ _ := rfl
  unfold PageSkeleton.forms page
  rw [hcontents]
  refine .append_fixed (.fixed_append (.fixed_append (.fixed rfl) .lineEnd)
    (.wrap (by decide) (.append_fixed (.append ?_ ?_) .lineEnd))) .lineEnd
  · exact .append_fixed (.fixed_append .lineEnd (.wrap (by decide) hhead)) .lineEnd
  · exact .wrap (by decide) hbody

/-- A reader of a page finds the tokens that its skeleton fixes, with exactly the texts of the page
    in the gaps, each of them unescaped and in its place. -/
theorem readMarkup_renderPage (p : Page) :
    ∃ tokens, fill? (pageSkeleton p).forms (pageContents p) = some tokens ∧
      Text.readMarkup (renderPage p) = some (Text.settle "" tokens) := by
  have hfits := fits_page p
  exact ⟨page p, hfits.fill_eq, Text.readMarkup_render hfits.named⟩

end Html

end NodeReport

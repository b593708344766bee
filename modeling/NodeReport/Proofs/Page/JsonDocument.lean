import Mathlib.Data.List.Forall2
import NodeReport.Page.Rendering
import NodeReport.Proofs.Json
import NodeReport.Proofs.Keyed

/-! # Pages read back from JSON

  A page without floating-point numbers can be told from its JSON text, up to the totals of bytes, of
  which only the wording is written:

  * `PageRecord.ofJson?` reads the fields of a document by their names, and gets back what a page has
    in it (`PageRecord.ofJson?_page`);
  * `Page.SameUpToWording` says which pages have the same text.
-/

namespace NodeReport

/-! ### Reading fields -/

namespace Json

/-- The value of a field. -/
def field? (name : String) : Json → Option Json
  | .object fields => (fields.find? fun f => f.1 == name).map fun f => f.2
  | _ => none

/-- The text of a string. -/
def text? : Json → Option String
  | .string s => some s
  | _ => none

/-- The items of an array, each read. -/
def items? {α : Type} (f : Json → Option α) : Json → Option (List α)
  | .array items => items.mapM f
  | _ => none

/-- The fields of an object as a map, each read. -/
def keyed? {α : Type} (f : Json → Option α) : Json → Option (Keyed α)
  | .object fields => (fields.mapM fun e => (f e.2).map fun a => (e.1, a)).map Keyed.ofList
  | _ => none

/-- A cell, which is told from its kind. -/
def cell? : Json → Option Cell
  | .null => some .null
  | .integer n => some (.integer n)
  | .real x => some (.real x)
  | .string s => some (.text s)
  | .boolean b => some (.flag b)
  | _ => none

/-- What a field holds, if it is there. -/
def optional? {α : Type} (f : Json → Option α) : Option Json → Option (Option α)
  | none => some none
  | some v => (f v).map some

/-- What is not null. -/
def nullable? {α : Type} (f : Json → Option α) : Json → Option (Option α)
  | .null => some none
  | v => (f v).map some

end Json

/-! ### Records -/

/-- What a document tells of a table: everything, with totals as cells. -/
structure TableRecord where
  name : String
  header : List String
  rows : List Row
  sums : Option (Keyed Cell)
deriving DecidableEq

/-- What a document tells of a section. -/
structure SectionRecord where
  title : String
  anchor : String
  notes : List String
  error : Option String
  table : TableRecord
  options : TableOptions
deriving DecidableEq

/-- What a document tells of a page. -/
structure PageRecord where
  title : String
  updated : Option String
  navigation : List NavigationItem
  sections : List SectionRecord
deriving DecidableEq

/-- A table with its totals as cells: a number is one, and a count of bytes is its wording. -/
def Table.record (t : Table) : TableRecord where
  name := t.name
  header := t.header
  rows := t.rows
  sums := t.sums.map fun sums => sums.mapEntries fun _ total => total.toCell

/-- A section with the record of its table. -/
def Section.record (s : Section) : SectionRecord where
  title := s.title
  anchor := s.anchor
  notes := s.notes
  error := s.error
  table := s.table.record
  options := s.options

/-- A page with the records of its sections. -/
def Page.record (p : Page) : PageRecord where
  title := p.title
  updated := p.updated
  navigation := p.navigation
  sections := p.sections.map Section.record

namespace PageRecord

open Json (text? items? keyed? cell? optional? nullable?)

/-- The record of a table, read from its object. -/
def tableOfJson? (v : Json) : Option TableRecord := do
  let name ← (v.field? "name").bind text?
  let header ← (v.field? "header").bind (items? text?)
  let rows ← (v.field? "rows").bind (items? (keyed? cell?))
  let sums ← optional? (keyed? cell?) (v.field? "sums")
  return { name, header, rows, sums }

/-- The options of a table, read from their object. -/
def optionsOfJson? (v : Json) : Option TableOptions := do
  let summable ← (v.field? "summable").bind (items? text?)
  let codeLink ← (v.field? "link_codes").bind (nullable? text?)
  let headerLinks ← (v.field? "header_links").bind (keyed? text?)
  return { summable := NameSet.ofList summable, codeLink, headerLinks }

/-- The record of a section, read from its object. -/
def sectionOfJson? (v : Json) : Option SectionRecord := do
  let title ← (v.field? "title").bind text?
  let anchor ← (v.field? "anchor").bind text?
  let notes ← (v.field? "notes").bind (items? text?)
  let error ← optional? text? (v.field? "error")
  let table ← (v.field? "table").bind tableOfJson?
  let options ← (v.field? "options").bind optionsOfJson?
  return { title, anchor, notes, error, table, options }

/-- An entry of the navigation, read from its object. -/
def navigationItemOfJson? (v : Json) : Option NavigationItem := do
  let label ← (v.field? "label").bind text?
  let target ← optional? text? (v.field? "href")
  return { label, target }

/-- The record of a page, read from a document. -/
def ofJson? (v : Json) : Option PageRecord := do
  let title ← (v.field? "title").bind text?
  let updated ← optional? text? (v.field? "updated")
  let navigation ← (v.field? "navigation").bind (items? navigationItemOfJson?)
  let sections ← (v.field? "sections").bind (items? sectionOfJson?)
  return { title, updated, navigation, sections }

/-! ### Reading what was written -/

theorem mapM_map {α β γ : Type} {f : α → β} {g : β → Option γ} {h : α → γ}
    (hread : ∀ a, g (f a) = some (h a)) (as : List α) :
    (as.map f).mapM g = some (as.map h) := by
  induction as with
  | nil => rfl
  | cons a as ih =>
    rw [List.map_cons, List.mapM_cons, hread, ih]
    rfl

theorem items?_strings (texts : List String) : items? text? (Json.strings texts) = some texts := by
  have hread := mapM_map (f := Json.string) (g := text?) (h := id) (fun _ => rfl) texts
  rw [List.map_id] at hread
  exact hread

theorem cell?_cell (c : Cell) : cell? (JsonDocument.cell c) = some c := by
  cases c <;> rfl

theorem cell?_total (t : Total) : cell? (JsonDocument.total t) = some t.toCell := by
  cases t <;> rfl

/-- A map is read back, each value as it is read on its own. -/
theorem keyed?_keyed {α β : Type} {f : α → Json} {g : Json → Option β} {h : α → β}
    (hread : ∀ a, g (f a) = some (h a)) (m : Keyed α) :
    keyed? g (JsonDocument.keyed f m) = some (m.mapEntries fun _ a => h a) := by
  have hentries := mapM_map (f := fun e : String × α => (e.1, f e.2))
    (g := fun e => (g e.2).map fun b => (e.1, b)) (h := fun e => (e.1, h e.2))
    (fun e => by simp [hread]) m.entries
  show Option.map Keyed.ofList (List.mapM _ (m.entries.map _)) = _
  rw [hentries]
  exact congrArg some (Keyed.ofList_entries (m.mapEntries fun _ a => h a))

theorem mapEntries_id {α : Type} (m : Keyed α) : (m.mapEntries fun _ a => a) = m :=
  Keyed.eq_of_entries_eq (List.map_id _)

theorem tableOfJson?_table (t : Table) :
    tableOfJson? (JsonDocument.table t) = some t.record := by
  have hname : (JsonDocument.table t).field? "name" = some (.string t.name) := rfl
  have hheader : (JsonDocument.table t).field? "header" = some (Json.strings t.header) := rfl
  have hrows : (JsonDocument.table t).field? "rows" =
      some (.array (t.rows.map (JsonDocument.keyed JsonDocument.cell))) := rfl
  have hsums : (JsonDocument.table t).field? "sums" =
      t.sums.map (JsonDocument.keyed JsonDocument.total) := by
    unfold JsonDocument.table
    cases t.sums <;> rfl
  have hcells : items? (keyed? cell?)
      (.array (t.rows.map (JsonDocument.keyed JsonDocument.cell))) = some t.rows := by
    have hread := mapM_map (g := keyed? cell?) (h := id) (fun row : Row => by
      rw [keyed?_keyed cell?_cell, mapEntries_id, id]) t.rows
    rw [List.map_id] at hread
    exact hread
  have htotals : optional? (keyed? cell?) (t.sums.map (JsonDocument.keyed JsonDocument.total)) =
      some t.record.sums := by
    unfold Table.record
    cases t.sums with
    | none => rfl
    | some sums =>
      show (keyed? cell? _).map some = _
      rw [keyed?_keyed cell?_total]
      rfl
  unfold tableOfJson?
  rw [hname, hheader, hrows, hsums]
  simp only [Option.bind_eq_bind, Option.bind_some, text?, items?_strings, hcells, htotals]
  rfl

theorem optionsOfJson?_options (o : TableOptions) :
    optionsOfJson? (JsonDocument.options o) = some o := by
  have hsummable : (JsonDocument.options o).field? "summable" =
      some (Json.strings o.summable.names) := rfl
  have hlink : ((JsonDocument.options o).field? "link_codes").bind (nullable? text?) =
      some o.codeLink := by
    unfold JsonDocument.options
    cases o.codeLink <;> rfl
  have hheader : (JsonDocument.options o).field? "header_links" =
      some (JsonDocument.keyed .string o.headerLinks) := rfl
  have hlinks : keyed? text? (JsonDocument.keyed .string o.headerLinks) = some o.headerLinks := by
    have hread := keyed?_keyed (f := Json.string) (g := text?) (h := id) (fun _ => rfl)
      o.headerLinks
    rw [hread]
    exact congrArg some (mapEntries_id o.headerLinks)
  unfold optionsOfJson?
  rw [hsummable, hlink, hheader]
  simp only [Option.bind_eq_bind, Option.bind_some, items?_strings, hlinks, NameSet.ofList_names]
  rfl

theorem sectionOfJson?_pageSection (s : Section) :
    sectionOfJson? (JsonDocument.pageSection s) = some s.record := by
  -- the error stands in the middle, if there is one
  obtain ⟨herror, htable, hoptions⟩ :
      (JsonDocument.pageSection s).field? "error" = s.error.map .string ∧
      (JsonDocument.pageSection s).field? "table" = some (JsonDocument.table s.table) ∧
      (JsonDocument.pageSection s).field? "options" = some (JsonDocument.options s.options) := by
    unfold JsonDocument.pageSection
    cases s.error <;> exact ⟨rfl, rfl, rfl⟩
  have htitle : (JsonDocument.pageSection s).field? "title" = some (.string s.title) := rfl
  have hanchor : (JsonDocument.pageSection s).field? "anchor" = some (.string s.anchor) := rfl
  have hnotes : (JsonDocument.pageSection s).field? "notes" = some (Json.strings s.notes) := rfl
  have hmessage : optional? text? (s.error.map .string) = some s.error := by
    cases s.error <;> rfl
  unfold sectionOfJson?
  rw [htitle, hanchor, hnotes, herror, htable, hoptions]
  simp only [Option.bind_eq_bind, Option.bind_some, text?, items?_strings, hmessage,
    tableOfJson?_table, optionsOfJson?_options]
  rfl

theorem navigationItemOfJson?_navigationItem (item : NavigationItem) :
    navigationItemOfJson? (JsonDocument.navigationItem item) = some item := by
  obtain ⟨label, target⟩ := item
  cases target <;> rfl

/-- What a page has in it is read back from its document. -/
theorem ofJson?_page (p : Page) : ofJson? (JsonDocument.page p) = some p.record := by
  -- the time of the last change stands in front, if there is one
  obtain ⟨hupdated, hnavigation, hsections⟩ :
      (JsonDocument.page p).field? "updated" = p.updated.map .string ∧
      (JsonDocument.page p).field? "navigation" =
        some (.array (p.navigation.map JsonDocument.navigationItem)) ∧
      (JsonDocument.page p).field? "sections" =
        some (.array (p.sections.map JsonDocument.pageSection)) := by
    unfold JsonDocument.page
    cases p.updated <;> exact ⟨rfl, rfl, rfl⟩
  have htitle : (JsonDocument.page p).field? "title" = some (.string p.title) := rfl
  have htime : optional? text? (p.updated.map .string) = some p.updated := by
    cases p.updated <;> rfl
  have hitems : items? navigationItemOfJson?
      (.array (p.navigation.map JsonDocument.navigationItem)) = some p.navigation := by
    have hread := mapM_map (h := id) navigationItemOfJson?_navigationItem p.navigation
    rw [List.map_id] at hread
    exact hread
  have hrecords : items? sectionOfJson? (.array (p.sections.map JsonDocument.pageSection)) =
      some (p.sections.map Section.record) :=
    mapM_map sectionOfJson?_pageSection p.sections
  unfold ofJson?
  rw [htitle, hupdated, hnavigation, hsections]
  simp only [Option.bind_eq_bind, Option.bind_some, text?, htime, hitems, hrecords]
  rfl

end PageRecord

/-! ### Pages without floating-point numbers -/

/-- Whether a cell is a floating-point number. -/
def Cell.isReal : Cell → Bool
  | .real _ => true
  | _ => false

/-- Whether a total is a floating-point number. -/
def Total.isReal : Total → Bool
  | .real _ => true
  | _ => false

/-- No cell and no total of a table is a floating-point number. -/
structure Table.HasNoReal (t : Table) : Prop where
  rows : ∀ row ∈ t.rows, ∀ e ∈ row.entries, e.2.isReal = false
  sums : ∀ sums ∈ t.sums, ∀ e ∈ sums.entries, e.2.isReal = false

/-- No cell and no total of a page is a floating-point number. -/
def Page.HasNoReal (p : Page) : Prop :=
  ∀ s ∈ p.sections, s.table.HasNoReal

instance (t : Table) : Decidable t.HasNoReal :=
  decidable_of_iff ((∀ row ∈ t.rows, ∀ e ∈ row.entries, e.2.isReal = false) ∧
      ∀ sums ∈ t.sums, ∀ e ∈ sums.entries, e.2.isReal = false)
    ⟨fun h => ⟨h.1, h.2⟩, fun h => ⟨h.rows, h.sums⟩⟩

instance (p : Page) : Decidable p.HasNoReal :=
  inferInstanceAs (Decidable (∀ s ∈ p.sections, s.table.HasNoReal))

namespace JsonDocument

open Json (IsExact)

theorem isExact_cell {c : Cell} (h : c.isReal = false) : IsExact (cell c) := by
  cases c with
  | null => exact .null
  | integer n => exact .integer n
  | real x => cases h
  | text s => exact .string s
  | flag b => exact .boolean b

theorem isExact_total {t : Total} (h : t.isReal = false) : IsExact (total t) := by
  cases t with
  | count n => exact .integer n
  | real x => cases h
  | bytes n => exact .string _

theorem isExact_array {α : Type} {f : α → Json} {as : List α} (h : ∀ a ∈ as, IsExact (f a)) :
    IsExact (.array (as.map f)) := by
  refine .array fun v hv => ?_
  obtain ⟨a, ha, rfl⟩ := List.mem_map.mp hv
  exact h a ha

theorem isExact_strings (texts : List String) : IsExact (Json.strings texts) :=
  isExact_array fun s _ => .string s

theorem isExact_keyed {α : Type} {f : α → Json} {m : Keyed α}
    (h : ∀ e ∈ m.entries, IsExact (f e.2)) : IsExact (keyed f m) := by
  refine .object fun field hfield => ?_
  obtain ⟨e, he, rfl⟩ := List.mem_map.mp hfield
  exact h e he

theorem isExact_optionalField (name : String) (text : Option String) :
    ∀ f ∈ optionalField name text, IsExact f.2 := by
  cases text with
  | none => simp [optionalField]
  | some s => simpa [optionalField] using .string s

theorem isExact_table {t : Table} (h : t.HasNoReal) : IsExact (table t) := by
  have hrows : IsExact (.array (t.rows.map (keyed cell))) :=
    isExact_array fun row hrow => isExact_keyed fun e he => isExact_cell (h.rows row hrow e he)
  refine .object (List.forall_mem_append.mpr ⟨?_, ?_⟩)
  · simpa using ⟨.string t.name, isExact_strings t.header, hrows⟩
  · cases hsums : t.sums with
    | none => simp
    | some sums =>
      simpa using isExact_keyed fun e he => isExact_total (h.sums sums hsums e he)

theorem isExact_options (o : TableOptions) : IsExact (options o) := by
  have hsummable := isExact_strings o.summable.names
  have hlinks : IsExact (keyed .string o.headerLinks) := isExact_keyed fun e _ => .string e.2
  refine .object ?_
  cases o.codeLink with
  | none => simpa using ⟨hsummable, .null, hlinks⟩
  | some template => simpa using ⟨hsummable, .string template, hlinks⟩

theorem isExact_pageSection {s : Section} (h : s.table.HasNoReal) : IsExact (pageSection s) := by
  refine .object (List.forall_mem_append.mpr ⟨List.forall_mem_append.mpr
    ⟨?_, isExact_optionalField "error" s.error⟩, ?_⟩)
  · simpa using ⟨.string s.title, .string s.anchor, isExact_strings s.notes⟩
  · simpa using ⟨isExact_table h, isExact_options s.options⟩

theorem isExact_navigationItem (item : NavigationItem) : IsExact (navigationItem item) :=
  .object (List.forall_mem_cons.mpr
    ⟨.string item.label, isExact_optionalField "href" item.target⟩)

/-- A page without floating-point numbers is a document without them. -/
theorem isExact_page {p : Page} (h : p.HasNoReal) : IsExact (page p) := by
  have hnavigation : IsExact (.array (p.navigation.map navigationItem)) :=
    isExact_array fun item _ => isExact_navigationItem item
  have hsections : IsExact (.array (p.sections.map pageSection)) :=
    isExact_array fun s hs => isExact_pageSection (h s hs)
  refine .object (List.forall_mem_append.mpr ⟨List.forall_mem_cons.mpr
    ⟨.string p.title, isExact_optionalField "updated" p.updated⟩, ?_⟩)
  simpa using ⟨hnavigation, hsections⟩

end JsonDocument

/-! ### Pages with the same text -/

/-- Totals that are equal, or counts of bytes that are worded in the same way. -/
def Total.SameUpToWording : Total → Total → Prop
  | .bytes m, .bytes n => formatBytes m = formatBytes n
  | s, t => s = t

/-- Tables that are equal, but for totals of bytes that are worded in the same way. -/
structure Table.SameUpToWording (s t : Table) : Prop where
  name : s.name = t.name
  header : s.header = t.header
  rows : s.rows = t.rows
  sums : Option.Rel
    (fun a b => ∀ column, Option.Rel Total.SameUpToWording (a.get? column) (b.get? column))
    s.sums t.sums

/-- Sections that are equal, but for totals of bytes that are worded in the same way. -/
structure Section.SameUpToWording (s t : Section) : Prop where
  title : s.title = t.title
  anchor : s.anchor = t.anchor
  notes : s.notes = t.notes
  error : s.error = t.error
  table : s.table.SameUpToWording t.table
  options : s.options = t.options

/-- Pages that are equal, but for totals of bytes that are worded in the same way. -/
structure Page.SameUpToWording (p q : Page) : Prop where
  title : p.title = q.title
  updated : p.updated = q.updated
  navigation : p.navigation = q.navigation
  sections : List.Forall₂ Section.SameUpToWording p.sections q.sections

theorem Total.sameUpToWording_iff {s t : Total} :
    s.SameUpToWording t ↔ s.toCell = t.toCell := by
  cases s <;> cases t <;> simp [SameUpToWording, toCell]

/-- The totals of two tables have the same cells if they are the same up to their wording. -/
theorem Keyed.mapEntries_toCell_eq_iff {a b : Keyed Total} :
    ((a.mapEntries fun _ t => t.toCell) = b.mapEntries fun _ t => t.toCell) ↔
      ∀ column, Option.Rel Total.SameUpToWording (a.get? column) (b.get? column) := by
  have hcells : ∀ s t : Option Total,
      s.map Total.toCell = t.map Total.toCell ↔ Option.Rel Total.SameUpToWording s t := by
    intro s t
    cases s <;> cases t <;> simp [Total.sameUpToWording_iff]
  constructor
  · intro h column
    have hget := congrArg (fun m => m.get? column) h
    simp only [Keyed.get?_mapEntries] at hget
    exact (hcells _ _).mp hget
  · intro h
    refine Keyed.ext_get? fun column => ?_
    rw [Keyed.get?_mapEntries, Keyed.get?_mapEntries]
    exact (hcells _ _).mpr (h column)

theorem Table.record_eq_iff {s t : Table} : s.record = t.record ↔ s.SameUpToWording t := by
  have hsums : (s.sums.map fun sums => sums.mapEntries fun _ total => total.toCell) =
        (t.sums.map fun sums => sums.mapEntries fun _ total => total.toCell) ↔
      Option.Rel (fun a b => ∀ column,
        Option.Rel Total.SameUpToWording (a.get? column) (b.get? column)) s.sums t.sums := by
    cases s.sums <;> cases t.sums <;> simp [Keyed.mapEntries_toCell_eq_iff]
  constructor
  · intro h
    exact ⟨congrArg TableRecord.name h, congrArg TableRecord.header h,
      congrArg TableRecord.rows h, hsums.mp (congrArg TableRecord.sums h)⟩
  · intro h
    unfold record
    rw [h.name, h.header, h.rows, hsums.mpr h.sums]

theorem Section.record_eq_iff {s t : Section} : s.record = t.record ↔ s.SameUpToWording t := by
  constructor
  · intro h
    exact ⟨congrArg SectionRecord.title h, congrArg SectionRecord.anchor h,
      congrArg SectionRecord.notes h, congrArg SectionRecord.error h,
      Table.record_eq_iff.mp (congrArg SectionRecord.table h), congrArg SectionRecord.options h⟩
  · intro h
    unfold record
    rw [h.title, h.anchor, h.notes, h.error, Table.record_eq_iff.mpr h.table, h.options]

theorem Page.record_eq_iff {p q : Page} : p.record = q.record ↔ p.SameUpToWording q := by
  have hsections : p.sections.map Section.record = q.sections.map Section.record ↔
      List.Forall₂ Section.SameUpToWording p.sections q.sections := by
    rw [← List.forall₂_eq_eq_eq, List.forall₂_map_left_iff, List.forall₂_map_right_iff]
    simp only [Section.record_eq_iff]
  constructor
  · intro h
    exact ⟨congrArg PageRecord.title h, congrArg PageRecord.updated h,
      congrArg PageRecord.navigation h, hsections.mp (congrArg PageRecord.sections h)⟩
  · intro h
    unfold record
    rw [h.title, h.updated, h.navigation, hsections.mpr h.sections]

/-! ### Documents of the same record -/

namespace JsonDocument

theorem total_eq_cell (t : Total) : total t = cell t.toCell := by
  cases t <;> rfl

theorem table_eq_of_record_eq {s t : Table} (h : s.record = t.record) : table s = table t := by
  have hkeyed : ∀ m : Keyed Total,
      keyed total m = keyed cell (m.mapEntries fun _ total => total.toCell) := by
    intro m
    unfold keyed Keyed.mapEntries
    simp [total_eq_cell]
  have htable : ∀ t : Table, table t = .object
      ([("name", .string t.name), ("header", Json.strings t.header),
        ("rows", .array (t.rows.map (keyed cell)))]
        ++ (t.record.sums.map fun sums => ("sums", keyed cell sums)).toList) := by
    intro t
    unfold table Table.record
    cases t.sums <;> simp [hkeyed]
  have hname : s.name = t.name := congrArg TableRecord.name h
  have hheader : s.header = t.header := congrArg TableRecord.header h
  have hrows : s.rows = t.rows := congrArg TableRecord.rows h
  rw [htable, htable, hname, hheader, hrows, h]

theorem pageSection_eq_of_record_eq {s t : Section} (h : s.record = t.record) :
    pageSection s = pageSection t := by
  have htable := table_eq_of_record_eq (congrArg SectionRecord.table h)
  have hsame := Section.record_eq_iff.mp h
  unfold pageSection
  rw [hsame.title, hsame.anchor, hsame.notes, hsame.error, htable, hsame.options]

/-- A document shows no more of a page than its record. -/
theorem page_eq_of_record_eq {p q : Page} (h : p.record = q.record) : page p = page q := by
  have hsame := Page.record_eq_iff.mp h
  have hsections : p.sections.map pageSection = q.sections.map pageSection := by
    rw [← List.forall₂_eq_eq_eq, List.forall₂_map_left_iff, List.forall₂_map_right_iff]
    exact hsame.sections.imp fun _ _ hs => pageSection_eq_of_record_eq (Section.record_eq_iff.mpr hs)
  unfold page
  rw [hsame.title, hsame.updated, hsame.navigation, hsections]

end JsonDocument

/-- The JSON text of a page without floating-point numbers is a document, an object, from which
    everything in the page is read back, totals of bytes as their wording. So two such pages have the
    same text exactly if they are equal up to the totals of bytes that are worded in the same way. -/
theorem Page.render_json_lossless {p : Page} (hp : p.HasNoReal) :
    (∃ fields, Json.read? (p.render .json) = some (.object fields) ∧
        PageRecord.ofJson? (.object fields) = some p.record) ∧
      ∀ q : Page, q.HasNoReal → (p.render .json = q.render .json ↔ p.SameUpToWording q) := by
  have hread : ∀ q : Page, q.HasNoReal →
      Json.read? (q.render .json) = some (JsonDocument.page q) :=
    fun q hq => Json.read?_render (JsonDocument.isExact_page hq)
  refine ⟨⟨_, hread p hp, PageRecord.ofJson?_page p⟩, ?_⟩
  intro q hq
  constructor
  · intro htext
    have hdocument : some (JsonDocument.page p) = some (JsonDocument.page q) := by
      rw [← hread p hp, ← hread q hq, htext]
    have hrecord : some p.record = some q.record := by
      rw [← PageRecord.ofJson?_page p, ← PageRecord.ofJson?_page q, Option.some.inj hdocument]
    exact Page.record_eq_iff.mp (Option.some.inj hrecord)
  · intro hsame
    exact congrArg Json.render (JsonDocument.page_eq_of_record_eq (Page.record_eq_iff.mpr hsame))

/-- A page with cells of every other kind, under names that have to be escaped, and with a total of
    bytes. -/
def wordyPage (bytes : Nat) : Page where
  title := "Requests \"GE\" \\ été\t\u0001"
  navigation := [⟨"<< Prev", some "reqlogdisplay?date=2024-02-28"⟩, ⟨"29 Feb", none⟩]
  sections :=
    [{ title := "Table Network"
       anchor := "Network"
       notes := ["a note\nof two lines"]
       table :=
        { name := "Network"
          header := ["networkCode", "size"]
          rows :=
            [Keyed.ofList [("networkCode", .text "GE"), ("size", .integer (-3))],
              Keyed.ofList [("networkCode", .null), ("a \"name\"", .flag true)]]
          sums := some (Keyed.ofList [("requests", .count 7), ("size", .bytes bytes)]) }
       options :=
        { summable := NameSet.ofList ["size", "requests"]
          codeLink := some "reqlognetwork?code=\x7bcode\x7d"
          headerLinks := Keyed.ofList [("01", "reqlogdisplay?date=2024-02-01")] } }]

/-- Three mebibytes and one byte more are worded in the same way. -/
theorem render_json_wordyPage :
    (∃ fields, Json.read? ((wordyPage 3145728).render .json) = some (.object fields) ∧
        PageRecord.ofJson? (.object fields) = some (wordyPage 3145728).record) ∧
      wordyPage 3145728 ≠ wordyPage 3145729 ∧
      (wordyPage 3145728).render .json = (wordyPage 3145729).render .json := by
  obtain ⟨hread, hsame⟩ := Page.render_json_lossless (show (wordyPage 3145728).HasNoReal by decide +kernel)
  refine ⟨hread, by decide +kernel, (hsame _ (by decide +kernel)).mpr ?_⟩
  exact Page.record_eq_iff.mp (by decide +kernel)

end NodeReport

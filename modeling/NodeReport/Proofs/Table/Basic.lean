import Mathlib.Data.List.Forall2
import NodeReport.Proofs.Keyed
import NodeReport.Table.Basic

/-! # Rows laid out under a header

  Showing a cell takes it out of the stored row, but as long as the header repeats no column this
  makes no difference: every column of the header shows the stored cell. Only the ids of sources are
  replaced, each by the code of the last source that has it. Totals are those of the stored rows.

  * `Source.code?_eq_some_iff_last`: the code of an id;
  * `isShownAs_shownRow`: the row that is laid out;
  * `assemble_lays_out_rows`: the table.
-/

namespace NodeReport

/-! ### Codes of sources -/

/-- The number in a cell, also one that is written as text with blanks around it. -/
inductive Cell.NamesId : Cell → Int → Prop
  | integer (id : Int) : NamesId (.integer id) id
  | text {s : String} {id : Int} (h : readInt64? (Text.trim s.toList) = some id) :
      NamesId (.text s) id

theorem Cell.integer?_eq_some_iff {c : Cell} {id : Int} : c.integer? = some id ↔ c.NamesId id := by
  constructor
  · intro h
    cases c with
    | integer n =>
      cases h
      exact .integer _
    | text s => exact .text h
    | null => cases h
    | real x => cases h
    | flag present => cases h
  · intro h
    cases h with
    | integer => rfl
    | text h => exact h

namespace Source

variable {sources : List Source}

/-- A source with this id that no other one with the same id follows. -/
def IsLastWithId (sources : List Source) (id : Int) (s : Source) : Prop :=
  s.id = id ∧ ∃ before after, sources = before ++ s :: after ∧ ∀ other ∈ after, other.id ≠ id

/-- Of several sources with an id the last one gives its code. -/
theorem code?_eq_some_iff_last {id : Int} {code : String} :
    code? sources id = some code ↔ ∃ s, IsLastWithId sources id s ∧ s.dcid = code := by
  unfold code? IsLastWithId
  rw [Option.map_eq_some_iff]
  -- the search starts at the last source, so what it has passed stands after the one that it finds
  constructor
  · intro h
    obtain ⟨s, hfind, hcode⟩ := h
    obtain ⟨hid, after, before, hsplit, hafter⟩ := List.find?_eq_some_iff_append.mp hfind
    refine ⟨s, ⟨by simpa using hid, before.reverse, after.reverse, ?_, ?_⟩, hcode⟩
    · rw [← List.reverse_reverse sources, hsplit]
      simp
    · intro other hother
      simpa using hafter other (List.mem_reverse.mp hother)
  · intro h
    obtain ⟨s, ⟨hid, before, after, hsplit, hafter⟩, hcode⟩ := h
    refine ⟨s, List.find?_eq_some_iff_append.mpr ⟨by simpa using hid, after.reverse,
      before.reverse, ?_, ?_⟩, hcode⟩
    · rw [hsplit]
      simp
    · intro other hother
      simpa using hafter other (List.mem_reverse.mp hother)

/-- The text that stands for a cell in the column of sources: the code of the last source that the
    cell names, or else the placeholder. -/
inductive IsLabelOf (sources : List Source) (raw : Cell) : String → Prop
  | known {id : Int} {s : Source} (hid : raw.NamesId id) (hlast : IsLastWithId sources id s) :
      IsLabelOf sources raw s.dcid
  | unknown (h : ∀ id, raw.NamesId id → ∀ s ∈ sources, s.id ≠ id) :
      IsLabelOf sources raw Cell.placeholder

theorem code?_eq_none_iff {id : Int} : code? sources id = none ↔ ∀ s ∈ sources, s.id ≠ id := by
  unfold code?
  simp

theorem exists_labelCell_eq (sources : List Source) (raw : Cell) :
    ∃ label, labelCell sources raw = .text label ∧ IsLabelOf sources raw label := by
  refine ⟨_, rfl, ?_⟩
  cases hlabel : label? sources raw with
  | some code =>
    obtain ⟨id, hid, hcode⟩ := Option.bind_eq_some_iff.mp hlabel
    obtain ⟨s, hlast, rfl⟩ := code?_eq_some_iff_last.mp hcode
    exact .known (Cell.integer?_eq_some_iff.mp hid) hlast
  | none =>
    refine .unknown ?_
    intro id hid
    have hnone := Option.bind_eq_none_iff.mp hlabel id (Cell.integer?_eq_some_iff.mpr hid)
    exact code?_eq_none_iff.mp hnone

/-- No other text stands for the cell. -/
theorem IsLabelOf.labelCell_eq {raw : Cell} {label : String} (h : IsLabelOf sources raw label) :
    labelCell sources raw = .text label := by
  unfold labelCell label?
  cases h with
  | @known id s hid hlast =>
    have hcode : code? sources id = some s.dcid := code?_eq_some_iff_last.mpr ⟨s, hlast, rfl⟩
    rw [Cell.integer?_eq_some_iff.mpr hid, Option.bind_some, hcode]
    rfl
  | unknown h =>
    have hnone : raw.integer?.bind (code? sources) = none := by
      rw [Option.bind_eq_none_iff]
      intro id hid
      exact code?_eq_none_iff.mpr (h id (Cell.integer?_eq_some_iff.mp hid))
    rw [hnone]
    rfl

end Source

/-! ### Rows -/

namespace Table

variable {sources : List Source} {header : List String} {column : String}

theorem shownCell_erase (raw : Row) {other : String} (h : column ≠ other) :
    shownCell sources (raw.erase other) column = shownCell sources raw column := by
  unfold shownCell
  rw [Keyed.get?_erase_of_ne raw h]

theorem shownCells_eq_map (h : header.Nodup) (raw : Row) :
    shownCells sources header raw = header.map fun column => (column, shownCell sources raw column) := by
  induction header generalizing raw with
  | nil => rfl
  | cons first rest ih =>
    obtain ⟨hfirst, hrest⟩ := List.nodup_cons.mp h
    rw [shownCells, ih hrest, List.map_cons]
    -- the first cell is taken out before the rest is shown, but the rest does not ask for it
    congr 1
    apply List.map_congr_left
    intro column hcolumn
    have hne : column ≠ first := by
      intro heq
      rw [heq] at hcolumn
      exact hfirst hcolumn
    rw [shownCell_erase raw hne]

/-- A column of the header shows what the stored row has in it. -/
theorem get?_shownRow (h : header.Nodup) (raw : Row) (hcolumn : column ∈ header) :
    (shownRow sources header raw).get? column = some (shownCell sources raw column) := by
  unfold shownRow
  rw [shownCells_eq_map h]
  have hentry : ∃ e ∈ header.map fun c => (c, shownCell sources raw c), e.1 = column :=
    ⟨_, List.mem_map.mpr ⟨column, hcolumn, rfl⟩, rfl⟩
  obtain ⟨cell, hcell⟩ := Keyed.exists_get?_ofList hentry
  obtain ⟨other, -, heq⟩ := List.mem_map.mp (Keyed.mem_of_get?_ofList hcell)
  cases heq
  exact hcell

/-- Only the column of sources is shown differently from what is stored. -/
theorem get?_shownRow_of_get? (h : header.Nodup) {raw : Row} (hcolumn : column ∈ header)
    (hsource : column ≠ sourceColumn) {cell : Cell} (hget : raw.get? column = some cell) :
    (shownRow sources header raw).get? column = some cell := by
  rw [get?_shownRow h raw hcolumn]
  unfold shownCell
  simp only [hget, beq_eq_false_iff_ne.mpr hsource]
  rfl

theorem names_shownRow (h : header.Nodup) (raw : Row) :
    ∀ name, name ∈ (shownRow sources header raw).names ↔ name ∈ header := by
  intro name
  rw [Keyed.mem_names_iff]
  constructor
  · intro hname
    obtain ⟨cell, hcell⟩ := hname
    unfold shownRow at hcell
    rw [shownCells_eq_map h] at hcell
    obtain ⟨column, hcolumn, heq⟩ := List.mem_map.mp (Keyed.mem_of_get?_ofList hcell)
    rw [← (Prod.mk.inj heq).1]
    exact hcolumn
  · intro hname
    exact ⟨_, get?_shownRow h raw hname⟩

/-- How a stored row is laid out under a header. -/
structure IsShownAs (sources : List Source) (header : List String) (raw shown : Row) : Prop where
  /-- It has the columns of the header. -/
  columns : ∀ column, column ∈ shown.names ↔ column ∈ header
  /-- What is stored is shown as it is. -/
  stored : ∀ column ∈ header, column ≠ sourceColumn → ∀ cell, raw.get? column = some cell →
    shown.get? column = some cell
  /-- The source is shown by its code. -/
  source : sourceColumn ∈ header → ∀ cell, raw.get? sourceColumn = some cell →
    ∃ label, shown.get? sourceColumn = some (.text label) ∧ Source.IsLabelOf sources cell label
  /-- What is missing is shown by the placeholder. -/
  missing : ∀ column ∈ header, raw.get? column = none →
    shown.get? column = some (.text Cell.placeholder)

theorem isShownAs_shownRow (sources : List Source) (h : header.Nodup) (raw : Row) :
    IsShownAs sources header raw (shownRow sources header raw) where
  columns := names_shownRow h raw
  stored := by
    intro column hcolumn hsource cell hcell
    exact get?_shownRow_of_get? h hcolumn hsource hcell
  source := by
    intro hcolumn cell hcell
    obtain ⟨label, hlabel, hof⟩ := Source.exists_labelCell_eq sources cell
    refine ⟨label, ?_, hof⟩
    rw [get?_shownRow h raw hcolumn, ← hlabel]
    unfold shownCell
    rw [hcell]
    rfl
  missing := by
    intro column hcolumn hnone
    rw [get?_shownRow h raw hcolumn]
    unfold shownCell
    rw [hnone]

/-! ### Tables -/

/-- A table has totals if there are rows and columns to be added up, and these are the totals of the
    rows as they are stored. -/
theorem sums_assemble_eq_some_iff {name : String} {rows : List Row} {options : TableOptions}
    {sums : Keyed Total} :
    (assemble name header rows options sources).sums = some sums ↔
      (rows ≠ [] ∧ options.summable.names ≠ []) ∧ sums = columnTotals rows options.summable := by
  have hempty : (rows.isEmpty || options.summable.isEmpty) = true ↔
      ¬(rows ≠ [] ∧ options.summable.names ≠ []) := by
    simp [Keyed.isEmpty, Keyed.names, or_iff_not_imp_left]
  unfold assemble
  simp only
  by_cases hsums : rows ≠ [] ∧ options.summable.names ≠ []
  · rw [if_neg fun h => hempty.mp h hsums, Option.some.injEq, and_iff_right hsums]
    exact eq_comm
  · rw [if_pos (hempty.mpr hsums)]
    simp [hsums]

/-- A table shows every stored row, in order, under its header, and adds them up as they are
    stored. -/
theorem assemble_lays_out_rows (name : String) (h : header.Nodup) (rows : List Row)
    (options : TableOptions) (sources : List Source) :
    List.Forall₂ (IsShownAs sources header) rows
        (assemble name header rows options sources).rows ∧
      (∀ sums, (assemble name header rows options sources).sums = some sums ↔
        (rows ≠ [] ∧ options.summable.names ≠ []) ∧ sums = columnTotals rows options.summable) ∧
      (assemble name header rows options sources).name = name ∧
      (assemble name header rows options sources).header = header := by
  refine ⟨?_, ?_, rfl, rfl⟩
  · unfold assemble
    rw [List.forall₂_map_right_iff, List.forall₂_same]
    intro raw _
    exact isShownAs_shownRow sources h raw
  · intro sums
    exact sums_assemble_eq_some_iff

/-- Two sources with the same id, and another one between them. -/
def repeatedSources : List Source :=
  [⟨1, "old.example.org", 80, "OLD"⟩, ⟨2, "two.example.org", 80, "TWO"⟩,
    ⟨1, "new.example.org", 8080, "NEW"⟩]

/-- Rows of the first source, with its id as a number and as a text, and of one that is not listed;
    not every row has every column. -/
def labelledRows : List Row :=
  [Keyed.ofList [("day", .text "2026-01-02"), (sourceColumn, .integer 1), ("requests", .integer 3)],
    Keyed.ofList [("requests", .integer 4), (sourceColumn, .text " 1 ")],
    Keyed.ofList [("day", .null), (sourceColumn, .text "9"), ("user", .text "x")]]

theorem assemble_lays_out_rows_repeatedSources :
    ["day", sourceColumn, "requests"].Nodup ∧
      ∃ first second third sums,
        assemble "Requests" ["day", sourceColumn, "requests"] labelledRows
            (TableOptions.summing ["requests"]) repeatedSources =
          ⟨"Requests", ["day", sourceColumn, "requests"], [first, second, third], some sums⟩ ∧
        first.get? sourceColumn = some (.text "NEW") ∧
        second.get? "day" = some (.text "??") ∧
        third.get? "day" = some .null ∧
        sums.get? "requests" = some (.count 7) := by
  have hheader : ["day", sourceColumn, "requests"].Nodup := by decide
  obtain ⟨hrows, hsums, hname, hheader'⟩ := assemble_lays_out_rows "Requests" hheader labelledRows
    (TableOptions.summing ["requests"]) repeatedSources
  -- from here on the table is only what the theorem says about it
  generalize assemble "Requests" _ labelledRows _ repeatedSources = table at *
  obtain ⟨name, header, shown, totals⟩ := table
  subst hname hheader'
  obtain ⟨first, afterFirst, hfirst, hrest, rfl⟩ := List.forall₂_cons_left_iff.mp hrows
  obtain ⟨second, afterSecond, hsecond, hrest', rfl⟩ := List.forall₂_cons_left_iff.mp hrest
  obtain ⟨third, afterThird, hthird, hnil, rfl⟩ := List.forall₂_cons_left_iff.mp hrest'
  obtain rfl := List.forall₂_nil_left_iff.mp hnil
  obtain ⟨label, hlabel, hof⟩ := hfirst.source (by decide) (.integer 1) (by decide)
  have hnew : label = "NEW" := by
    have heq := hof.labelCell_eq
    rw [show Source.labelCell repeatedSources (.integer 1) = .text "NEW" by decide] at heq
    exact (Cell.text.inj heq).symm
  have htotals : totals = some (columnTotals labelledRows (NameSet.ofList ["requests"])) :=
    (hsums _).mpr ⟨by decide, rfl⟩
  subst htotals
  refine ⟨hheader, first, second, third, _, rfl, ?_, ?_, ?_, ?_⟩
  · rw [hlabel, hnew]
  · exact hsecond.missing "day" (by decide) (by decide)
  · exact hthird.stored "day" (by decide) (by decide) .null (by decide)
  · decide

end Table

end NodeReport

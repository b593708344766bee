import NodeReport.Proofs.Page.Isolation
import NodeReport.Proofs.Store.Schema

/-! # Pages of a store with all of its tables

  What a page shows, picks and orders by is named apart from the columns that a store is set up
  with. The two fit: no question to a store with all of its tables fails, and each shown cell is a
  stored one.

  * `Inquiry.not_fails`: no inquiry that fits fails;
  * `shownIn_tableSection`: a section shows stored cells;
  * `showsStore_of_hasSchema`: both for the two pages.
-/

namespace NodeReport

open TableKind (dayColumn)
open Table (sourceColumn)

/-! ### Names of columns -/

namespace TableKind

theorem nodup_header (kind : TableKind) : kind.header.Nodup := by
  cases kind <;> decide

/-- What a report shows is stored under the same name. -/
theorem hasColumn_ofKind {kind : TableKind} {column : String} (h : column ∈ kind.header) :
    (Schema.ofKind kind).HasColumn column := by
  revert column
  cases kind <;> decide

theorem dayColumn_mem_header (kind : TableKind) : dayColumn ∈ kind.header :=
  List.mem_cons_self

theorem sourceColumn_mem_header (kind : TableKind) : sourceColumn ∈ kind.header :=
  List.mem_cons_of_mem _ List.mem_cons_self

/-- What a day's rows are ordered by is shown. -/
theorem sortColumn_mem_header (kind : TableKind) : kind.sortColumn ∈ kind.header := by
  have hmem := List.mem_of_mem_head? (head?_ownColumns kind)
  exact List.mem_cons_of_mem _ (List.mem_cons_of_mem _ hmem)

end TableKind

/-- A filter asks only for columns that are shown, if the code of a network is asked for among
    networks alone. -/
theorem RowFilter.column_mem_header {filter : RowFilter} {kind : TableKind}
    (h : filter.network = none ∨ kind = .network) {c : Condition} (hc : c ∈ filter.conditions) :
    c.column ∈ kind.header := by
  unfold RowFilter.conditions at hc
  simp only [List.mem_append, Option.mem_toList, Option.map_eq_some_iff] at hc
  rcases hc with ((⟨d, -, rfl⟩ | ⟨d, -, rfl⟩) | ⟨id, -, rfl⟩) | ⟨code, hcode, rfl⟩
  · exact kind.dayColumn_mem_header
  · exact kind.dayColumn_mem_header
  · exact kind.sourceColumn_mem_header
  · -- a code is only asked for where there is a column for it
    rcases h with hnone | rfl
    · rw [hnone] at hcode
      cases hcode
    · show RowFilter.networkColumn ∈ TableKind.header .network
      decide

namespace Report

/-! ### Inquiries -/

/-- Whether an inquiry names only columns that its table shows. -/
def Inquiry.Fits : Inquiry → Prop
  | .reports _ => True
  | .rows kind filter order =>
    (∀ c ∈ filter.conditions, c.column ∈ kind.header) ∧ ∀ name ∈ order, name ∈ kind.header

theorem fits_dailyInquiries {today date : Day} {showAll : Bool} {inquiry : Inquiry}
    (h : inquiry ∈ dailyInquiries today date showAll) : inquiry.Fits := by
  unfold dailyInquiries at h
  simp only [List.cons_append, List.mem_cons, List.mem_append, List.mem_map, List.not_mem_nil,
    or_false] at h
  rcases h with rfl | ⟨kind, -, rfl⟩ | rfl
  · trivial
  · refine ⟨fun c hc => RowFilter.column_mem_header (.inl rfl) hc, ?_⟩
    intro name hname
    rw [List.mem_singleton.mp hname]
    exact kind.sortColumn_mem_header
  · exact ⟨fun c hc => RowFilter.column_mem_header (.inl rfl) hc, by decide⟩

theorem fits_networkInquiries {code : String} {date : Day} {inquiry : Inquiry}
    (h : inquiry ∈ networkInquiries code date) : inquiry.Fits := by
  unfold networkInquiries at h
  simp only [List.mem_cons, List.not_mem_nil, or_false] at h
  rcases h with rfl | rfl
  · exact ⟨fun c hc => RowFilter.column_mem_header (.inr rfl) hc, by decide⟩
  · exact ⟨fun c hc => RowFilter.column_mem_header (.inr rfl) hc, by decide⟩

variable {db : Database}

/-- The rows that are fetched from a store with all of its tables. -/
theorem value_fetchRows_of_hasSchema (h : db.HasSchema) {kind : TableKind} {filter : RowFilter}
    {order : List String} (hfits : (Inquiry.rows kind filter order).Fits) :
    ∃ t, db.table? kind.storeName = some t ∧ t.shape = Schema.ofKind kind ∧ t.IsFull ∧
      (db.reportStore.fetchRows kind filter order).value =
        .ok (((Question.rows kind filter order).picked t).map t.rowOf) := by
  obtain ⟨t, ht, hshape, hfull⟩ := h.table?_ofKind kind
  refine ⟨t, ht, hshape, hfull, Database.value_fetchRows ht ?_ ?_⟩
  · intro c hc
    rw [hshape]
    exact TableKind.hasColumn_ofKind (hfits.1 c hc)
  · intro name hname
    rw [hshape]
    exact TableKind.hasColumn_ofKind (hfits.2 name hname)

/-- No inquiry fails that fits a store with all of its tables. -/
theorem Inquiry.not_fails (h : db.HasSchema) {inquiry : Inquiry} (hfits : inquiry.Fits) :
    ¬ inquiry.Fails db.reportStore := by
  cases inquiry with
  | reports window =>
    obtain ⟨sources, hsources, hsourcesShape, -⟩ := h Schema.source List.mem_cons_self
    obtain ⟨summary, hsummary, hsummaryShape, -⟩ := h.table?_ofKind .summary
    have hlisted := Database.value_askFor
      (Selection.run_eq_ok (s := Question.sources) hsources (by rw [hsourcesShape]; decide))
      (readRows Source.ofRow? skippedSource)
    have hreported := Database.value_askFor
      (Selection.run_eq_ok (s := Question.reportDays window.first window.last) hsummary
        (by
          rw [hsummaryShape]
          show ∀ name ∈ [sourceColumn, dayColumn, dayColumn, dayColumn],
            (Schema.ofKind .summary).HasColumn name
          decide))
      reportPairs
    intro hfails
    rcases hfails with ⟨e, he⟩ | ⟨-, e, he⟩
    · have hboth := hlisted.symm.trans he
      cases hboth
    · have hboth := hreported.symm.trans he
      cases hboth
  | rows kind filter order =>
    obtain ⟨t, -, -, -, hfetched⟩ := value_fetchRows_of_hasSchema h hfits
    intro hfails
    obtain ⟨e, he⟩ := hfails
    have hboth := hfetched.symm.trans he
    cases hboth

/-- A section without an error, if its inquiry fits. -/
theorem IsAnswerTo.error_eq_none {inquiry : Inquiry} {made : ReportStore → Section}
    (hmade : IsAnswerTo inquiry made) (h : db.HasSchema) (hfits : inquiry.Fits) :
    (made db.reportStore).error = none := by
  have hfails := (hmade.error_iff db.reportStore).not.mpr (Inquiry.not_fails h hfits)
  exact Option.not_isSome_iff_eq_none.mp hfails

/-! ### Stored cells -/

/-- Whether a section shows the rows of a stored table that satisfy a filter, in some order: under
    every column but that of sources it shows the stored cell. -/
structure ShowsStored (t : StoredTable) (kind : TableKind) (filter : RowFilter) (s : Section) :
    Prop where
  /-- The columns are those of the kind of table. -/
  header : s.table.header = kind.header
  /-- Each shown row stands for a stored one. -/
  rows : ∃ stored, stored.Perm (t.rows.filter fun row =>
      filter.conditions.all (Selection.satisfies t.shape row)) ∧
    List.Forall₂ (fun row shown => ∀ column ∈ kind.header, column ≠ sourceColumn →
      ∃ cell, (t.rowOf row).get? column = some cell ∧ shown.get? column = some cell)
      stored s.table.rows

/-- Whether a section shows without an error what a database has stored for an inquiry. -/
def Inquiry.ShownIn (db : Database) (s : Section) : Inquiry → Prop
  | .reports _ => s.error = none
  | .rows kind filter _ =>
    s.error = none ∧ ∃ t, db.table? kind.storeName = some t ∧ ShowsStored t kind filter s

/-- A full row has a cell under every column of its table. -/
theorem exists_get?_rowOf {t : StoredTable} (hfull : t.IsFull) {row : List StoredValue}
    (hrow : row ∈ t.rows) {column : String} (hcolumn : t.shape.HasColumn column) :
    ∃ cell, (t.rowOf row).get? column = some cell := by
  -- the value of a column stands at the column's own place, before the end of a full row
  obtain ⟨i, c, hi, rfl⟩ := hcolumn.exists_getElem?
  obtain ⟨hlt, -⟩ := List.getElem?_eq_some_iff.mp hi
  have hname : (t.shape.columns.map Column.name)[i]? = some c.name := by
    rw [List.getElem?_map, hi]
    rfl
  have hvalue : i < row.length := by
    rw [hfull row hrow]
    exact hlt
  exact Selected.get?_toRow_isSome hname (List.getElem?_eq_getElem hvalue)

theorem shownIn_tableSection (h : db.HasSchema) {plan : SectionPlan} {kind : TableKind}
    (hheader : plan.header = kind.header) (sources : List Source) {filter : RowFilter}
    {order : List String} (hfits : (Inquiry.rows kind filter order).Fits) :
    (Inquiry.rows kind filter order).ShownIn db
      (tableSection plan sources (db.reportStore.fetchRows kind filter order).value) := by
  obtain ⟨t, ht, hshape, hfull, hfetched⟩ := value_fetchRows_of_hasSchema h hfits
  rw [hfetched]
  refine ⟨rfl, t, ht, hheader, _, (Question.rows kind filter order).picked_perm t, ?_⟩
  show List.Forall₂ _ _ ((List.map t.rowOf _).map (Table.shownRow sources plan.header))
  rw [hheader, List.map_map, List.forall₂_map_right_iff, List.forall₂_same]
  intro row hrow column hcolumn hsource
  have hhas : t.shape.HasColumn column := by
    rw [hshape]
    exact TableKind.hasColumn_ofKind hcolumn
  obtain ⟨cell, hcell⟩ := exists_get?_rowOf hfull (Selection.mem_picked.mp hrow).1 hhas
  exact ⟨cell, hcell, Table.get?_shownRow_of_get? kind.nodup_header hcolumn hsource hcell⟩

/-! ### Pages -/

/-- Whether both pages show without an error what a database has stored. -/
structure ShowsStore (db : Database) (today date : Day) (showAll : Bool) (code : String)
    (updated : Option String) : Prop where
  /-- Every section of the daily page does so for its inquiry. -/
  daily : List.Forall₂ (fun inquiry s => inquiry.ShownIn db s) (dailyInquiries today date showAll)
    (daily db.reportStore today date showAll updated).value.sections
  /-- So do the requests of a network, and the totals of all networks have no error either. -/
  network : ∃ requests networks,
    (network db.reportStore today code date updated).value.sections = [requests, networks] ∧
    (Inquiry.rows .network { monthFilter date with network := some code }
      [dayColumn, sourceColumn]).ShownIn db requests ∧
    networks.error = none

theorem shownIn_daily (h : db.HasSchema) (today date : Day) (showAll : Bool)
    (updated : Option String) :
    List.Forall₂ (fun inquiry s => inquiry.ShownIn db s) (dailyInquiries today date showAll)
      (daily db.reportStore today date showAll updated).value.sections := by
  have hfits : ∀ inquiry ∈ dailyInquiries today date showAll, inquiry.Fits :=
    fun inquiry hmem => fits_dailyInquiries hmem
  rw [sections_daily]
  unfold dailyInquiries at hfits ⊢
  unfold dailySections
  rw [List.map_append, List.map_cons, List.map_map]
  refine .cons ?_ (List.rel_append ?_ (.cons ?_ .nil))
  · exact (isAnswerTo_calendarSection today date).error_eq_none h trivial
  · rw [List.forall₂_map_left_iff, List.forall₂_map_right_iff, List.forall₂_same]
    intro kind hkind
    exact shownIn_tableSection h rfl _ (hfits _ (by simp [hkind]))
  · exact shownIn_tableSection h rfl _ (hfits _ (by simp))

theorem showsStore_of_hasSchema (h : db.HasSchema) (today date : Day) (showAll : Bool)
    (code : String) (updated : Option String) : ShowsStore db today date showAll code updated where
  daily := shownIn_daily h today date showAll updated
  network := by
    have hfits : ∀ inquiry ∈ networkInquiries code date, inquiry.Fits :=
      fun inquiry hmem => fits_networkInquiries hmem
    refine ⟨_, _, sections_network db.reportStore today code date updated, ?_, ?_⟩
    · exact shownIn_tableSection h rfl _ (hfits _ List.mem_cons_self)
    · exact (isAnswerTo_networksSection date).error_eq_none h
        (hfits _ (List.mem_cons_of_mem _ List.mem_cons_self))

/-- Whatever was done to a store after it was set up, its pages show what it has stored. -/
theorem showsStore_of_changes {fs : FileSystem} {path : String} {place : Place}
    (h : fs.IsVacant path place) (now : Instant) (changes : List (Instant × StoreChange)) :
    ∃ db modified, ((fs.initStore now path).1.afterChanges path changes).openDatabase path =
        .ok (db, modified) ∧
      ∀ (today date : Day) (showAll : Bool) (code : String) (updated : Option String),
        ShowsStore db today date showAll code updated := by
  obtain ⟨db, modified, hopen, hdb⟩ := h.changes_hasSchema now changes
  exact ⟨db, modified, hopen, showsStore_of_hasSchema hdb⟩

/-- A source, a row of the summary that is put in and then refused for being there already, and a
    row with too few values. -/
def sampleChanges : List (Instant × StoreChange) :=
  [(1, .setup (.lookup ⟨"a.example", 80, "A"⟩)),
    (2, .insert "ArcStatsSummary" (List.replicate 2 (.ofText "2024-02-29" ::
      List.replicate 8 (.integer 1)))),
    (3, .insert "ArcStatsNetwork" [[.ofText "2024-02-29", .integer 1]]), (4, .setup .init)]

/-- The tree after these changes of a store that was set up in an empty one. -/
def sampleFiles : FileSystem :=
  (({} : FileSystem).initStore 0 "data/stats.db").1.afterChanges "data/stats.db" sampleChanges

theorem showsStore_of_sampleChanges :
    FileSystem.IsVacant {} "data/stats.db" ["data", "stats.db"] ∧
      ((sampleFiles.openDatabase "data/stats.db").map fun opened =>
        (opened.1.table? "ArcStatsSummary").map fun t => t.rows.length) = .ok (some 1) ∧
      ∃ db modified, sampleFiles.openDatabase "data/stats.db" = .ok (db, modified) ∧
        ∀ (today date : Day) (showAll : Bool) (code : String) (updated : Option String),
          ShowsStore db today date showAll code updated :=
  ⟨FileSystem.isVacant_dataStats, by decide +kernel,
    showsStore_of_changes FileSystem.isVacant_dataStats 0 sampleChanges⟩

end Report

end NodeReport

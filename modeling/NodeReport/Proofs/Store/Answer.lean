import NodeReport.Proofs.Store.Order
import NodeReport.Store.ReportStore

/-! # Answers of a database

  A question is answered if its selection can be run. The rows that are fetched for a kind of table
  are then the rows of the stored table that satisfy the filter, in some order.
-/

namespace NodeReport

/-- What can be told from a selection that was run. -/
theorem Selection.exists_of_run_eq_ok {s : Selection} {db : Database} {selected : Selected}
    (h : s.run db = .ok selected) :
    ∃ t, db.table? s.table = some t ∧ selected = project t.shape (s.picked t) s.projection := by
  unfold run at h
  split at h
  · cases h
  · rename_i t ht
    split at h
    · cases h
    · cases h
      exact ⟨t, ht, rfl⟩

/-- A stored row with its cells under the names of the table's columns. -/
def StoredTable.rowOf (t : StoredTable) (row : List StoredValue) : Row :=
  Selected.toRow (t.shape.columns.map Column.name) row

namespace Database

variable {db : Database} {s : Selection} {selected : Selected}

theorem value_ask (h : s.run db = .ok selected) : (db.ask s).value = .ok selected.toRows := by
  unfold ask
  simp only [h]

theorem value_askFor {α : Type} (h : s.run db = .ok selected) (f : List Row → Noted α) :
    (db.askFor s f).value = .ok (f selected.toRows).value := by
  unfold askFor Noted.bind
  simp only [value_ask h]

/-- A question about a table that is not there has no answer. -/
theorem exists_value_ask_eq_error (h : db.table? s.table = none) :
    ∃ e, (db.ask s).value = .error e := by
  unfold ask Selection.run
  simp only [h]
  exact ⟨_, rfl⟩

theorem exists_value_askFor_eq_error {α : Type} (h : db.table? s.table = none)
    (f : List Row → Noted α) : ∃ e, (db.askFor s f).value = .error e := by
  obtain ⟨e, he⟩ := exists_value_ask_eq_error h
  unfold askFor Noted.bind
  simp only [he]
  exact ⟨e, rfl⟩

/-- Rows are fetched if their table is there and has the columns of the filter and of the order. -/
theorem value_fetchRows {kind : TableKind} {filter : RowFilter} {order : List String}
    {t : StoredTable} (ht : db.table? kind.storeName = some t)
    (hfilter : ∀ c ∈ filter.conditions, t.shape.HasColumn c.column)
    (horder : ∀ name ∈ order, t.shape.HasColumn name) :
    (db.reportStore.fetchRows kind filter order).value =
      .ok (((Question.rows kind filter order).picked t).map t.rowOf) := by
  have hrun := Selection.run_eq_ok (s := Question.rows kind filter order) ht (by
    intro name hmem
    rcases List.mem_append.mp hmem with hmem | hmem
    · obtain ⟨c, hc, rfl⟩ := List.mem_map.mp hmem
      exact hfilter c hc
    · exact horder name (List.mem_filter.mp hmem).1)
  exact value_ask hrun

/-- Fetched rows come from the stored table, each that satisfies the filter once. -/
theorem exists_of_value_fetchRows {kind : TableKind} {filter : RowFilter} {order : List String}
    {rows : List Row} (h : (db.reportStore.fetchRows kind filter order).value = .ok rows) :
    ∃ t, db.table? kind.storeName = some t ∧
      rows.Perm ((t.rows.filter fun row =>
        filter.conditions.all (Selection.satisfies t.shape row)).map t.rowOf) := by
  have hask : (db.ask (Question.rows kind filter order)).value = .ok rows := h
  cases hrun : (Question.rows kind filter order).run db with
  | error e =>
    unfold ask at hask
    simp only [hrun] at hask
    cases hask
  | ok selected =>
    rw [value_ask hrun] at hask
    cases hask
    obtain ⟨t, ht, rfl⟩ := Selection.exists_of_run_eq_ok hrun
    exact ⟨t, ht, ((Question.rows kind filter order).picked_perm t).map t.rowOf⟩

/-- Sources that stand in order of their ids are listed as they are stored. -/
theorem value_sources {t : StoredTable} (ht : db.table? Schema.sourceTable = some t)
    (hshape : t.shape = Schema.source)
    (hsorted : t.rows.Pairwise fun a b => Schema.source.orderBy ["id"] a b = .lt) :
    db.reportStore.sources.value = .ok (t.rows.filterMap fun row =>
      Source.ofRow? (Selected.toRow ["id", "host", "port", "dcid"]
        (["id", "host", "port", "dcid"].map fun c => Schema.source.valueIn c row))) := by
  have hrun := Selection.run_eq_ok (s := Question.sources) ht (by rw [hshape]; decide)
  -- there are no conditions, and no two rows have the same id
  have hall : Question.sources.satisfying t = t.rows := List.filter_eq_self.mpr fun _ _ => rfl
  have hpicked : Question.sources.picked t = t.rows := by
    rw [← hshape, ← hall] at hsorted
    rw [Selection.picked_eq_of_pairwise hsorted, hall]
  rw [hpicked, hshape] at hrun
  have hsources := value_askFor hrun (readRows Source.ofRow? skippedSource)
  refine hsources.trans (congrArg Except.ok ?_)
  show List.filterMap _ (List.map _ (List.map _ t.rows)) = _
  rw [List.map_map, List.filterMap_map]
  rfl

end Database

end NodeReport

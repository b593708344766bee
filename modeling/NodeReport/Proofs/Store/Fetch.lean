import NodeReport.Proofs.Store.Answer
import NodeReport.Proofs.Store.Order
import NodeReport.Proofs.Store.Template

/-! # Fetched rows

  Rows of a kind of table are fetched by a statement that shows which fields a filter has and which
  known columns an order names, and nothing else of either. Read back, with the values of the filter
  in its gaps, it is the selection that is run, and this gives the stored rows that satisfy the
  filter, each once, sorted by the known columns.
-/

namespace NodeReport

namespace RowFilter

/-! ### Fields -/

/-- The columns that a filter compares, and how: one for each field that is present. -/
def comparisons (f : RowFilter) : List (String × Comparison) :=
  (if f.firstDay.isSome then [(TableKind.dayColumn, .atLeast)] else [])
    ++ (if f.lastDay.isSome then [(TableKind.dayColumn, .atMost)] else [])
    ++ (if f.source.isSome then [(Table.sourceColumn, .equal)] else [])
    ++ (if f.network.isSome then [(networkColumn, .equal)] else [])

/-- The values that a filter binds: the fields that are present. -/
def values (f : RowFilter) : List StoredValue :=
  (f.firstDay.map fun d => .ofText d.text).toList
    ++ (f.lastDay.map fun d => .ofText d.text).toList
    ++ (f.source.map .integer).toList
    ++ (f.network.map .ofText).toList

/-- Two filters have the same fields, whatever is in them. -/
structure SameFields (f g : RowFilter) : Prop where
  firstDay : f.firstDay.isSome = g.firstDay.isSome
  lastDay : f.lastDay.isSome = g.lastDay.isSome
  source : f.source.isSome = g.source.isSome
  network : f.network.isSome = g.network.isSome

/-- Whether a row satisfies the condition of every field that is present. -/
def accepts (f : RowFilter) (shape : TableShape) (row : List StoredValue) : Bool :=
  let holds (column : String) (comparison : Comparison) (value : StoredValue) : Bool :=
    Selection.satisfies shape row ⟨column, comparison, value⟩
  (f.firstDay.all fun first => holds "start_day" .atLeast (.ofText first.text))
    && (f.lastDay.all fun last => holds "start_day" .atMost (.ofText last.text))
    && (f.source.all fun id => holds "source" .equal (.integer id))
    && (f.network.all fun code => holds "networkCode" .equal (.ofText code))

theorem SameFields.refl (f : RowFilter) : f.SameFields f :=
  ⟨rfl, rfl, rfl, rfl⟩

theorem SameFields.comparisons_eq {f g : RowFilter} (h : f.SameFields g) :
    f.comparisons = g.comparisons := by
  unfold comparisons
  rw [h.firstDay, h.lastDay, h.source, h.network]

theorem map_conditions_comparison (f : RowFilter) :
    (f.conditions.map fun c => (c.column, c.comparison)) = f.comparisons := by
  obtain ⟨first, last, source, network⟩ := f
  cases first <;> cases last <;> cases source <;> cases network <;> rfl

theorem map_conditions_value (f : RowFilter) : f.conditions.map Condition.value = f.values := by
  obtain ⟨first, last, source, network⟩ := f
  cases first <;> cases last <;> cases source <;> cases network <;> rfl

theorem all_conditions (f : RowFilter) (shape : TableShape) (row : List StoredValue) :
    f.conditions.all (Selection.satisfies shape row) = f.accepts shape row := by
  have hfield : ∀ {α : Type} (o : Option α) (g : α → Condition),
      (o.map g).toList.all (Selection.satisfies shape row) =
        o.all fun a => Selection.satisfies shape row (g a) := by
    intro α o g
    cases o <;> simp
  unfold conditions accepts
  rw [List.all_append, List.all_append, List.all_append, hfield, hfield, hfield, hfield]
  rfl

theorem isQuotable_column {f : RowFilter} {c : Condition} (h : c ∈ f.conditions) :
    Selection.IsQuotable c.column := by
  have hcolumn : ∀ column ∈ f.comparisons.map Prod.fst,
      column ∈ [TableKind.dayColumn, Table.sourceColumn, networkColumn] := by
    obtain ⟨first, last, source, network⟩ := f
    cases first <;> cases last <;> cases source <;> cases network <;>
      simp [comparisons]
  have hmem : c.column ∈ f.comparisons.map Prod.fst := by
    rw [← map_conditions_comparison, List.map_map]
    exact List.mem_map.mpr ⟨c, h, rfl⟩
  have hall : ∀ column ∈ [TableKind.dayColumn, Table.sourceColumn, networkColumn],
      Selection.IsQuotable column := by
    decide
  exact hall _ (hcolumn _ hmem)

end RowFilter

namespace Selection

/-- The statement of a selection does not show the values that are bound. -/
theorem text_eq_of_template_eq {s s' : Selection} (hprojection : s.projection = s'.projection)
    (h : s.template = s'.template) : s.text = s'.text := by
  have hconditions : ∀ conditions : List Condition, conditions.map conditionText =
      (conditions.map fun c => (c.column, c.comparison)).map
        fun gap => conditionText ⟨gap.1, gap.2, .null⟩ := by
    intro conditions
    rw [List.map_map]
    rfl
  have hmap : (s.conditions.map fun c => (c.column, c.comparison)) =
      s'.conditions.map fun c => (c.column, c.comparison) :=
    congrArg SelectTemplate.comparisons h
  have hempty : s.conditions.isEmpty = s'.conditions.isEmpty := by
    rw [← List.isEmpty_map (f := fun c : Condition => (c.column, c.comparison)), hmap,
      List.isEmpty_map]
  have htable : s.table = s'.table := congrArg SelectTemplate.table h
  have horder : s.order = s'.order := congrArg SelectTemplate.order h
  unfold text
  rw [hprojection, htable, horder, hempty, hconditions s.conditions, hmap,
    ← hconditions s'.conditions]

end Selection

namespace Question

variable (kind : TableKind) (f : RowFilter) (order : List String)

theorem template_rows :
    (rows kind f order).template = ⟨kind.storeName, f.comparisons, knownOrder kind order⟩ :=
  congrArg (SelectTemplate.mk kind.storeName · (knownOrder kind order))
    f.map_conditions_comparison

theorem hasQuotableNames_rows : (rows kind f order).HasQuotableNames where
  table := by
    have hall : ∀ kind : TableKind, Selection.IsQuotable kind.storeName := by
      intro kind
      cases kind <;> decide
    exact hall kind
  conditions := fun _ hc => RowFilter.isQuotable_column hc
  order := by
    -- the order keeps only columns of the header
    have hall : ∀ (kind : TableKind), ∀ column ∈ kind.header, Selection.IsQuotable column := by
      intro kind
      cases kind <;> decide
    intro column hcolumn
    exact hall kind column (List.contains_iff_mem.mp (List.mem_filter.mp hcolumn).2)

theorem namedColumns_rows : (rows kind f order).namedColumns =
    f.comparisons.map Prod.fst ++ knownOrder kind order := by
  rw [← f.map_conditions_comparison, List.map_map]
  rfl

end Question

/-- Some of the rows of a table: those that a filter accepts, each once, sorted by columns. -/
structure StoredTable.IsFetched (t : StoredTable) (f : RowFilter) (columns : List String)
    (rows : List (List StoredValue)) : Prop where
  /-- The rows that satisfy the filter, as often as they are stored. -/
  perm : rows.Perm (t.rows.filter (f.accepts t.shape))
  /-- They are sorted. -/
  sorted : rows.Pairwise fun a b => Selection.comesFirst t.shape columns a b = true

namespace Database

variable {db : Database}

theorem value_fetchRows_eq (db : Database) (kind : TableKind) (f : RowFilter)
    (order : List String) : (db.reportStore.fetchRows kind f order).value =
      (db.ask (Question.rows kind f order)).value :=
  rfl

theorem value_ask_eq_error {s : Selection} {e : DatabaseError} (h : s.run db = .error e) :
    (db.ask s).value = .error (.query s.text e) := by
  unfold ask
  simp only [h]

/-! ### The statement that fetches rows -/

/-- A statement that fetches the rows of a kind of table which a filter accepts, sorted by the known
    columns of an order. -/
structure FetchesRows (statement : String) (kind : TableKind) (f : RowFilter)
    (order : List String) : Prop where
  /-- It is the statement for all values in the filter and all orders with the same known columns,
      and shows nothing else of them. -/
  notices_eq : ∀ (db : Database) (g : RowFilter) (other : List String), f.SameFields g →
    Question.knownOrder kind other = Question.knownOrder kind order →
    (db.reportStore.fetchRows kind g other).notices =
      Question.orderNotices kind other ++ [⟨.debug, "SQL: " ++ statement⟩]
  /-- Its gaps are the conditions of the fields that are present, in the order of the values that
      are bound, and the selection that it is read as, with these values, is the one that is run. -/
  reads : ∃ template, SelectTemplate.read? statement = some template ∧
    template = ⟨kind.storeName, f.comparisons, Question.knownOrder kind order⟩ ∧
    ∃ selection, template.bind? f.values = some selection ∧ ∀ db : Database,
      (db.reportStore.fetchRows kind f order).value = (db.ask selection).value
  /-- If the table has the columns in it, then the result is the stored rows that satisfy every
      condition, each once, sorted by the known columns. -/
  fetched : ∀ (db : Database) (t : StoredTable), db.table? kind.storeName = some t →
    (∀ c ∈ f.comparisons.map Prod.fst ++ Question.knownOrder kind order,
      (t.shape.columnIndex? c).isSome = true) →
    ∃ rows, t.IsFetched f (Question.knownOrder kind order) rows ∧
      (db.reportStore.fetchRows kind f order).value = .ok (rows.map t.rowOf)
  /-- If a column is missing, then the result is an error that names it. -/
  noSuchColumn : ∀ (db : Database) (t : StoredTable), db.table? kind.storeName = some t →
    (∃ c ∈ f.comparisons.map Prod.fst ++ Question.knownOrder kind order,
      t.shape.columnIndex? c = none) →
    ∃ c ∈ f.comparisons.map Prod.fst ++ Question.knownOrder kind order,
      t.shape.columnIndex? c = none ∧ (db.reportStore.fetchRows kind f order).value =
        .error (.query statement (.noSuchColumn c))
  /-- If the table is missing, then the result is an error that names it. -/
  noSuchTable : ∀ db : Database, db.table? kind.storeName = none →
    (db.reportStore.fetchRows kind f order).value =
      .error (.query statement (.noSuchTable kind.storeName))

section Statement

variable (kind : TableKind) (f : RowFilter) (order : List String)

/-- Questions with the same fields and the same known columns have the same statement. -/
theorem text_rows_eq {f g : RowFilter} {order other : List String} (hfields : f.SameFields g)
    (horder : Question.knownOrder kind other = Question.knownOrder kind order) :
    (Question.rows kind g other).text = (Question.rows kind f order).text := by
  have htemplate : (Question.rows kind g other).template = (Question.rows kind f order).template := by
    rw [Question.template_rows, Question.template_rows, horder, hfields.comparisons_eq]
  exact Selection.text_eq_of_template_eq rfl htemplate

theorem notices_fetchRows (db : Database) :
    (db.reportStore.fetchRows kind f order).notices = Question.orderNotices kind order ++
      [⟨.debug, "SQL: " ++ (Question.rows kind f order).text⟩] :=
  rfl

theorem read?_text_rows : SelectTemplate.read? (Question.rows kind f order).text =
    some ⟨kind.storeName, f.comparisons, Question.knownOrder kind order⟩ := by
  rw [← Question.template_rows]
  exact Selection.read?_text rfl (Question.hasQuotableNames_rows kind f order)

/-- The values of a filter stand in the order of its conditions. -/
theorem bind?_rows : SelectTemplate.bind? ⟨kind.storeName, f.comparisons,
    Question.knownOrder kind order⟩ f.values = some (Question.rows kind f order) := by
  rw [← Question.template_rows, ← f.map_conditions_value]
  exact Selection.bind?_template rfl

theorem isFetched_picked (t : StoredTable) : t.IsFetched f (Question.knownOrder kind order)
    ((Question.rows kind f order).picked t) where
  perm := by
    have hfilter : (Question.rows kind f order).satisfying t = t.rows.filter (f.accepts t.shape) :=
      List.filter_congr fun row _ => f.all_conditions t.shape row
    rw [← hfilter]
    exact (Question.rows kind f order).picked_perm t
  sorted := (Question.rows kind f order).pairwise_picked t

variable {kind f order}

/-- Rows are fetched if every column that the question names is there. -/
theorem value_fetchRows_picked {t : StoredTable} (ht : db.table? kind.storeName = some t)
    (hcolumns : ∀ c ∈ f.comparisons.map Prod.fst ++ Question.knownOrder kind order,
      (t.shape.columnIndex? c).isSome = true) :
    (db.reportStore.fetchRows kind f order).value =
      .ok (((Question.rows kind f order).picked t).map t.rowOf) := by
  rw [← Question.namedColumns_rows] at hcolumns
  have hrun := Selection.run_eq_ok_of_isSome (s := Question.rows kind f order) ht hcolumns
  rw [value_fetchRows_eq, value_ask hrun]
  rfl

theorem exists_value_fetchRows_eq_error {t : StoredTable} (ht : db.table? kind.storeName = some t)
    (hmissing : ∃ c ∈ f.comparisons.map Prod.fst ++ Question.knownOrder kind order,
      t.shape.columnIndex? c = none) :
    ∃ c ∈ f.comparisons.map Prod.fst ++ Question.knownOrder kind order,
      t.shape.columnIndex? c = none ∧ (db.reportStore.fetchRows kind f order).value =
        .error (.query (Question.rows kind f order).text (.noSuchColumn c)) := by
  rw [← Question.namedColumns_rows] at hmissing ⊢
  obtain ⟨c, hmem, hnone⟩ := hmissing
  obtain ⟨c', hmem', hnone', hrun⟩ :=
    Selection.exists_run_eq_error (s := Question.rows kind f order) ht hmem hnone
  refine ⟨c', hmem', hnone', ?_⟩
  rw [value_fetchRows_eq, value_ask_eq_error hrun]

theorem value_fetchRows_eq_noSuchTable (ht : db.table? kind.storeName = none) :
    (db.reportStore.fetchRows kind f order).value =
      .error (.query (Question.rows kind f order).text (.noSuchTable kind.storeName)) := by
  have hrun : (Question.rows kind f order).run db = .error (.noSuchTable kind.storeName) := by
    unfold Selection.run
    rw [show db.table? (Question.rows kind f order).table = none from ht]
    rfl
  rw [value_fetchRows_eq, value_ask_eq_error hrun]

end Statement

/-- Rows are fetched by one statement for all values in a filter and all orders with the same known
    columns. Read back, with these values in its gaps, it is the selection that is run, which gives
    the stored rows that the filter accepts, sorted by the known columns, or an error that names the
    table or the column that is missing. -/
theorem fetchRows_runs_statement (kind : TableKind) (f : RowFilter) (order : List String) :
    ∃ statement : String, FetchesRows statement kind f order := by
  refine ⟨(Question.rows kind f order).text, ?_⟩
  constructor
  case notices_eq =>
    intro db g other hfields horder
    rw [notices_fetchRows, text_rows_eq kind hfields horder]
  case reads =>
    exact ⟨_, read?_text_rows kind f order, rfl, _, bind?_rows kind f order, fun _ => rfl⟩
  case fetched =>
    intro db t ht hcolumns
    exact ⟨_, isFetched_picked kind f order t, value_fetchRows_picked ht hcolumns⟩
  case noSuchColumn =>
    intro db t ht hmissing
    exact exists_value_fetchRows_eq_error ht hmissing
  case noSuchTable =>
    intro db ht
    exact value_fetchRows_eq_noSuchTable ht

/-! ### A table that has every column -/

/-- Requests for networks in the first days of a year. -/
def winterNetworks : StoredTable where
  shape := Schema.ofKind .network
  rows :=
    [[.ofText "2024-01-05", .integer 1, .ofText "GE", .integer 7, .integer 1, .integer 0,
        .integer 0, .ofText "1 kiB", .null],
      [.ofText "2024-01-06", .integer 2, .ofText "GE", .integer 3, .integer 1, .integer 0,
        .integer 0, .ofText "1 kiB", .null],
      [.ofText "2024-01-06", .integer 1, .ofText "GE", .integer 2, .integer 1, .integer 0,
        .integer 0, .ofText "1 kiB", .null],
      [.ofText "2024-01-07", .integer 1, .ofText "CH", .integer 9, .integer 1, .integer 0,
        .integer 0, .ofText "1 kiB", .null]]

/-- The requests of one source for one network on two days. -/
def winterFilter : RowFilter where
  firstDay := some ⟨2024, 1, 5, by decide⟩
  lastDay := some ⟨2024, 1, 6, by decide⟩
  source := some 1
  network := some "GE"

/-- Two of the requests are fetched, the one with fewer requests first, and the order that would end
    the statement is left out. -/
theorem fetchRows_winterNetworks :
    (winterNetworks.rows.filter (winterFilter.accepts winterNetworks.shape)).length = 2 ∧
      ∃ rows, winterNetworks.IsFetched winterFilter ["requests", "start_day"] rows ∧
        ((Database.mk [winterNetworks]).reportStore.fetchRows .network winterFilter
          ["requests", "size`; DROP TABLE ArcStatsNetwork; --", "start_day"]).value =
            .ok (rows.map winterNetworks.rowOf) := by
  obtain ⟨statement, hstatement⟩ := fetchRows_runs_statement .network winterFilter
    ["requests", "size`; DROP TABLE ArcStatsNetwork; --", "start_day"]
  exact ⟨by decide +kernel,
    hstatement.fetched (Database.mk [winterNetworks]) winterNetworks rfl (by decide)⟩

/-! ### A table without a column of the order -/

/-- Messages that lack their texts. -/
def textlessMessages : StoredTable where
  shape := TableShape.untyped (TableKind.storeName .messages)
    [TableKind.dayColumn, Table.sourceColumn]
  rows := [[.ofText "2024-02-29", .integer 1]]

/-- A known column by which the rows should be ordered is looked up like those of the filter: if it
    is missing, there is no result, although the table has the column of the filter. -/
theorem not_isFetched_textlessMessages :
    (Database.mk [textlessMessages]).table? (TableKind.storeName .messages) =
        some textlessMessages ∧
      (∀ c ∈ (RowFilter.ofDay ⟨2024, 2, 29, by decide⟩).comparisons.map Prod.fst,
        (textlessMessages.shape.columnIndex? c).isSome = true) ∧
      ¬ ∃ rows, textlessMessages.IsFetched (RowFilter.ofDay ⟨2024, 2, 29, by decide⟩)
          (Question.knownOrder .messages ["message"]) rows ∧
        ((Database.mk [textlessMessages]).reportStore.fetchRows .messages
          (RowFilter.ofDay ⟨2024, 2, 29, by decide⟩) ["message"]).value =
            .ok (rows.map textlessMessages.rowOf) := by
  have hrun : (Question.rows .messages (RowFilter.ofDay ⟨2024, 2, 29, by decide⟩)
      ["message"]).run (Database.mk [textlessMessages]) = .error (.noSuchColumn "message") := by
    decide +kernel
  refine ⟨rfl, by decide, ?_⟩
  rintro ⟨rows, -, hvalue⟩
  rw [value_fetchRows_eq, value_ask_eq_error hrun] at hvalue
  cases hvalue

end Database

end NodeReport

import NodeReport.Proofs.Store.Answer
import NodeReport.Proofs.Store.Conversion
import NodeReport.Proofs.Store.DayValue

/-! # Who reported when

  The summary has a row for each source and day with a report. A database answers for one source
  and one day by counting rows, and for a range of days by listing pairs. Both answers are described
  by the rows alone:

  * `value_hasReport`: one cell is asked for by equality of texts;
  * `value_reportDays`: the pairs come from a range of texts, and are read back from them.
-/

namespace NodeReport

open TableKind (dayColumn)
open Table (sourceColumn)

/-! ### Rows of the summary -/

/-- Whether a stored row says that a source reported on a day. -/
def Reports (shape : TableShape) (row : List StoredValue) (source : Int) (day : Day) : Prop :=
  shape.valueIn sourceColumn row = .integer source ∧
    shape.valueIn dayColumn row = .ofText day.text

/-- A table of reports: it has columns of day and source, and every row names a source by an
    integer and a day by its text. -/
structure StoredTable.IsSummary (t : StoredTable) : Prop where
  /-- Columns are told apart by their names. -/
  distinct : t.shape.HasDistinctNames
  /-- There is a column of days. -/
  hasDay : t.shape.HasColumn dayColumn
  /-- There is a column of sources. -/
  hasSource : t.shape.HasColumn sourceColumn
  /-- Every row is held as the columns prefer it. -/
  isConverted : t.IsConverted
  /-- Every row names a source and a day. -/
  reports : ∀ row ∈ t.rows, ∃ source day, day.HasPlainYear ∧ Reports t.shape row source day

namespace Reports

variable {shape : TableShape} {row : List StoredValue} {source : Int} {day : Day}

/-- A condition on the day compares two texts of days, byte by byte whatever the collation. -/
theorem satisfies_day (h : Reports shape row source day) (comparison : Comparison) (d : Day) :
    Selection.satisfies shape row ⟨dayColumn, comparison, .ofText d.text⟩ =
      comparison.accepts (StoredValue.compareBytes (Text.utf8 day.text) (Text.utf8 d.text)) := by
  unfold Selection.satisfies
  simp only [h.2, StoredValue.apply_text]
  have hnull : ∀ s : String, (StoredValue.ofText s != .null) = true := by
    intro s
    simp [StoredValue.ofText]
  rw [hnull, hnull, Bool.true_and, Bool.true_and, ← StoredValue.compare_text]
  rfl

/-- A condition on the source compares two integers: a column that holds an integer does not
    convert the bound one. -/
theorem satisfies_source (h : Reports shape row source day) (hholds : shape.Holds row) (id : Int) :
    Selection.satisfies shape row ⟨sourceColumn, .equal, .integer id⟩ = decide (source = id) := by
  have hkept : ∀ n : Int, (shape.affinityOf sourceColumn).apply (.integer n) = .integer n := by
    have hsource := hholds sourceColumn
    rw [h.1] at hsource
    intro n
    cases haffinity : shape.affinityOf sourceColumn with
    | anything => rfl
    | numeric => rfl
    | text =>
      -- a column of texts would not hold the integer
      rw [haffinity] at hsource
      cases hsource
  unfold Selection.satisfies
  simp only [h.1, hkept]
  have hnull : ∀ n : Int, (StoredValue.integer n != .null) = true := by
    intro n
    simp
  rw [hnull, hnull, Bool.true_and, Bool.true_and]
  show (compare source id == .eq) = decide (source = id)
  rw [Bool.eq_iff_iff, beq_iff_eq, decide_eq_true_iff]
  exact Int.compare_eq_eq

/-- Only the same day has the same text. -/
theorem satisfies_day_equal (h : Reports shape row source day) (d : Day) :
    Selection.satisfies shape row ⟨dayColumn, .equal, .ofText d.text⟩ = decide (day = d) := by
  rw [h.satisfies_day, Bool.eq_iff_iff, decide_eq_true_iff]
  unfold Comparison.accepts
  rw [beq_iff_eq, StoredValue.compareBytes_eq_eq_iff, Text.utf8_inj, Day.text_inj]

/-- A later day has a later text, as long as years are plain. -/
theorem satisfies_day_atLeast (h : Reports shape row source day) (hday : day.HasPlainYear)
    {d : Day} (hd : d.HasPlainYear) :
    Selection.satisfies shape row ⟨dayColumn, .atLeast, .ofText d.text⟩ = decide (d ≤ day) := by
  rw [h.satisfies_day, StoredValue.compareBytes_text hday hd, Bool.eq_iff_iff, decide_eq_true_iff]
  unfold Comparison.accepts
  rw [bne_iff_ne, Ne, Int.compare_eq_lt, Int.not_lt]
  exact Iff.rfl

theorem satisfies_day_atMost (h : Reports shape row source day) (hday : day.HasPlainYear)
    {d : Day} (hd : d.HasPlainYear) :
    Selection.satisfies shape row ⟨dayColumn, .atMost, .ofText d.text⟩ = decide (day ≤ d) := by
  rw [h.satisfies_day, StoredValue.compareBytes_text hday hd, Bool.eq_iff_iff, decide_eq_true_iff]
  unfold Comparison.accepts
  rw [bne_iff_ne, Ne, Int.compare_eq_gt, Int.not_lt]
  exact Iff.rfl

/-- Rows that the store takes for equal have the same source and the same day. -/
theorem eq_of_orderBy {stored : List StoredValue} {other : Int} {d : Day}
    (h : Reports shape row source day) (h' : Reports shape stored other d)
    (heq : shape.orderBy [sourceColumn, dayColumn] row stored = .eq) :
    source = other ∧ day = d := by
  obtain ⟨hsource, hrest⟩ := Ordering.then_eq_eq.mp heq
  obtain ⟨hday, -⟩ := Ordering.then_eq_eq.mp hrest
  rw [h.1, h'.1] at hsource
  rw [h.2, h'.2] at hday
  have hbytes := (StoredValue.compare_text (shape.collationOf dayColumn) day d).symm.trans hday
  exact ⟨Int.compare_eq_eq.mp hsource,
    Day.text_inj.mp (Text.utf8_inj.mp (StoredValue.compareBytes_eq_eq_iff.mp hbytes))⟩

end Reports

/-! ### The two questions -/

namespace Database

variable {db : Database} {t : StoredTable}

/-- Counted rows are any if there is a row. -/
theorem countIsPositive_toRows (rows : List (List StoredValue)) :
    countIsPositive (Selected.toRows ⟨[Question.countName], [[.integer rows.length]]⟩) =
      decide (rows ≠ []) := by
  have hcell : (Selected.toRow [Question.countName] [.integer rows.length]).integerAt?
      Question.countName = some (rows.length : Int) := by
    rfl
  unfold Selected.toRows countIsPositive
  simp only [List.map_cons, List.map_nil, hcell, Option.getD_some]
  rw [Bool.eq_iff_iff, decide_eq_true_iff, decide_eq_true_iff, Ne, ← List.length_eq_zero_iff]
  omega

/-- Whether there is a report is whether some row says so. -/
theorem value_hasReport (ht : db.table? (TableKind.storeName .summary) = some t)
    (hsummary : t.IsSummary) (day : Day) (source : Int) :
    ∃ answer : Bool, (db.reportStore.hasReport day source).value = .ok answer ∧
      (answer = true ↔ ∃ row ∈ t.rows, Reports t.shape row source day) := by
  have hrun := Selection.run_eq_ok (s := Question.reportCount day source) ht (by
    intro name hmem
    have hname : name = dayColumn ∨ name = sourceColumn := by
      simpa [Selection.namedColumns, Question.reportCount] using hmem
    rcases hname with rfl | rfl
    · exact hsummary.hasDay
    · exact hsummary.hasSource)
  refine ⟨_, value_askFor hrun _, ?_⟩
  show countIsPositive (Selected.toRows ⟨[Question.countName],
    [[.integer ((Question.reportCount day source).picked t).length]]⟩) = true ↔ _
  rw [countIsPositive_toRows, decide_eq_true_iff]
  -- the two conditions of the question leave exactly the rows of this source and day
  constructor
  · intro hne
    obtain ⟨row, hrow⟩ := List.exists_mem_of_ne_nil _ hne
    obtain ⟨hmem, hconditions⟩ := Selection.mem_picked.mp hrow
    obtain ⟨s, d, -, hreports⟩ := hsummary.reports row hmem
    have hday := hconditions ⟨dayColumn, .equal, .ofText day.text⟩ (by simp [Question.reportCount])
    have hsource := hconditions ⟨sourceColumn, .equal, .integer source⟩
      (by simp [Question.reportCount])
    rw [hreports.satisfies_day_equal, decide_eq_true_iff] at hday
    rw [hreports.satisfies_source (hsummary.isConverted row hmem), decide_eq_true_iff] at hsource
    rw [← hday, ← hsource]
    exact ⟨row, hmem, hreports⟩
  · rintro ⟨row, hmem, hreports⟩
    refine List.ne_nil_of_mem (Selection.mem_picked.mpr ⟨hmem, ?_⟩)
    intro c hc
    have hcases : c = ⟨dayColumn, .equal, .ofText day.text⟩ ∨
        c = ⟨sourceColumn, .equal, .integer source⟩ := by
      simpa [Question.reportCount] using hc
    rcases hcases with rfl | rfl
    · rw [hreports.satisfies_day_equal, decide_eq_true_iff]
    · rw [hreports.satisfies_source (hsummary.isConverted row hmem), decide_eq_true_iff]

/-- A row that was selected for its source and day is read as this pair. -/
theorem reportPair?_toRow (source : Int) (day : Day) :
    reportPair? (Selected.toRow [sourceColumn, dayColumn] [.integer source, .ofText day.text]) =
      some (source, day) := by
  have hrow : ∀ name, (Selected.toRow [sourceColumn, dayColumn]
      [.integer source, .ofText day.text]).get? name =
        if name = dayColumn then some (.text day.text)
        else if name = sourceColumn then some (.integer source) else none := by
    intro name
    show (Keyed.insert (Keyed.insert Keyed.empty sourceColumn _) dayColumn
      (StoredValue.ofText day.text).toCell).get? name = _
    rw [Keyed.get?_insert, Keyed.get?_insert, StoredValue.toCell_ofText]
    rfl
  have hsource : (Selected.toRow [sourceColumn, dayColumn]
      [.integer source, .ofText day.text]).integerAt? sourceColumn = some source := by
    unfold Row.integerAt?
    rw [hrow, if_neg (by decide), if_pos rfl]
    rfl
  have hday : (Selected.toRow [sourceColumn, dayColumn]
      [.integer source, .ofText day.text]).textAt dayColumn = day.text := by
    unfold Row.textAt
    rw [hrow, if_pos rfl]
    rfl
  unfold reportPair?
  rw [hsource, hday, Day.parse_text]

/-- The rows that are picked for a range of days are those that report on a day of it. -/
theorem mem_picked_reportDays (hsummary : t.IsSummary) {first last : Day}
    (hfirst : first.HasPlainYear) (hlast : last.HasPlainYear) {row : List StoredValue} :
    row ∈ (Question.reportDays first last).picked t ↔
      row ∈ t.rows ∧ ∃ source day, Reports t.shape row source day ∧ first ≤ day ∧ day ≤ last := by
  rw [Selection.mem_picked]
  constructor
  · rintro ⟨hmem, hconditions⟩
    obtain ⟨source, day, hday, hreports⟩ := hsummary.reports row hmem
    have hlow := hconditions ⟨dayColumn, .atLeast, .ofText first.text⟩
      (by simp [Question.reportDays, RowFilter.ofDays, RowFilter.conditions])
    have hhigh := hconditions ⟨dayColumn, .atMost, .ofText last.text⟩
      (by simp [Question.reportDays, RowFilter.ofDays, RowFilter.conditions])
    rw [hreports.satisfies_day_atLeast hday hfirst, decide_eq_true_iff] at hlow
    rw [hreports.satisfies_day_atMost hday hlast, decide_eq_true_iff] at hhigh
    exact ⟨hmem, source, day, hreports, hlow, hhigh⟩
  · rintro ⟨hmem, source, day, hreports, hlow, hhigh⟩
    refine ⟨hmem, ?_⟩
    intro c hc
    -- between plain years there are only plain years
    have hday := hfirst.of_between hlast hlow hhigh
    have hcases : c = ⟨dayColumn, .atLeast, .ofText first.text⟩ ∨
        c = ⟨dayColumn, .atMost, .ofText last.text⟩ := by
      simpa [Question.reportDays, RowFilter.ofDays, RowFilter.conditions] using hc
    rcases hcases with rfl | rfl
    · rw [hreports.satisfies_day_atLeast hday hfirst, decide_eq_true_iff]
      exact hlow
    · rw [hreports.satisfies_day_atMost hday hlast, decide_eq_true_iff]
      exact hhigh

/-- The pairs of a range of days are those that some row reports. -/
theorem value_reportDays (ht : db.table? (TableKind.storeName .summary) = some t)
    (hsummary : t.IsSummary) {first last : Day} (hfirst : first.HasPlainYear)
    (hlast : last.HasPlainYear) :
    ∃ pairs : List (Int × Day), (db.reportStore.reportDays first last).value = .ok pairs ∧
      ∀ source day, (source, day) ∈ pairs ↔
        first ≤ day ∧ day ≤ last ∧ ∃ row ∈ t.rows, Reports t.shape row source day := by
  have hcolumns : ∀ name ∈ [sourceColumn, dayColumn], t.shape.HasColumn name := by
    intro name hmem
    have hname : name = sourceColumn ∨ name = dayColumn := by simpa using hmem
    rcases hname with rfl | rfl
    · exact hsummary.hasSource
    · exact hsummary.hasDay
  have hrun := Selection.run_eq_ok (s := Question.reportDays first last) ht (by
    intro name hmem
    apply hcolumns
    simpa [Selection.namedColumns, Question.reportDays, RowFilter.ofDays,
      RowFilter.conditions, or_comm] using hmem)
  refine ⟨_, value_askFor hrun _, ?_⟩
  intro source day
  show (source, day) ∈ ((((Selection.firstOfEach t.shape [sourceColumn, dayColumn]
    ((Question.reportDays first last).picked t)).map fun row =>
      [sourceColumn, dayColumn].map fun c => t.shape.valueIn c row).map
        (Selected.toRow (Selection.storedNames t.shape [sourceColumn, dayColumn]))).filterMap
          reportPair?).eraseDups ↔ _
  rw [List.mem_eraseDups, List.mem_filterMap, Selection.storedNames_eq hsummary.distinct hcolumns]
  constructor
  · rintro ⟨cells, hcells, hpair⟩
    obtain ⟨values, hvalues, rfl⟩ := List.mem_map.mp hcells
    obtain ⟨row, hkept, rfl⟩ := List.mem_map.mp hvalues
    obtain ⟨hmem, s, d, hreports, hlow, hhigh⟩ :=
      (mem_picked_reportDays hsummary hfirst hlast).mp (Selection.mem_of_mem_firstOfEach hkept)
    simp only [List.map_cons, List.map_nil, hreports.1, hreports.2] at hpair
    rw [reportPair?_toRow] at hpair
    cases hpair
    exact ⟨hlow, hhigh, row, hmem, hreports⟩
  · rintro ⟨hlow, hhigh, row, hmem, hreports⟩
    have hrow := (mem_picked_reportDays hsummary hfirst hlast).mpr
      ⟨hmem, source, day, hreports, hlow, hhigh⟩
    -- the kept row is another one, but equal in order, hence with the same source and the same day
    obtain ⟨kept, hkept, heq⟩ := Selection.exists_mem_firstOfEach hrow
    obtain ⟨-, s, d, hother, -, -⟩ := (mem_picked_reportDays hsummary hfirst hlast).mp
      (Selection.mem_of_mem_firstOfEach hkept)
    obtain ⟨rfl, rfl⟩ := hreports.eq_of_orderBy hother heq
    refine ⟨_, List.mem_map.mpr ⟨_, List.mem_map.mpr ⟨kept, hkept, rfl⟩, rfl⟩, ?_⟩
    simp only [List.map_cons, List.map_nil, hother.1, hother.2]
    exact reportPair?_toRow source day

end Database

end NodeReport

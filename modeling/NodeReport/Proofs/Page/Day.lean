import Mathlib.Data.List.Nodup
import NodeReport.Proofs.Page.Calendar

/-! # The day of a daily page

  The daily page tells twice which sources reported on its day: by the marks of the calendar, which
  come from the pairs of a month, and by the rows of the summary, which are picked for the day and
  show codes in place of ids. The two tell the same:

  * `Source.labelCell_eq_text_iff`: an id is shown as the code of a source only if it is its own;
  * `Report.calendarCell?_calendarSection`: the mark of a source tells whether its pair is listed;
  * `Report.exists_mem_rows_summary_iff`: the summary has a row of a source if it reported.
-/

namespace NodeReport

open TableKind (dayColumn)
open Table (sourceColumn)

/-! ### Codes and ids -/

namespace Source

variable {sources : List Source}

/-- If no two sources have the same id, each is found by its own. -/
theorem code?_eq_some_iff (hids : (sources.map Source.id).Nodup) {id : Int} {code : String} :
    code? sources id = some code ↔ ∃ source ∈ sources, source.id = id ∧ source.dcid = code := by
  rw [code?_eq_some_iff_last]
  constructor
  · intro h
    obtain ⟨source, ⟨hid, before, after, hsplit, -⟩, hcode⟩ := h
    exact ⟨source, by simp [hsplit], hid, hcode⟩
  · intro h
    obtain ⟨source, hmem, hid, hcode⟩ := h
    obtain ⟨before, after, hsplit⟩ := List.append_of_mem hmem
    refine ⟨source, ⟨hid, before, after, hsplit, ?_⟩, hcode⟩
    -- a later one with this id would repeat it
    intro other hother hsame
    rw [hsplit, List.map_append, List.map_cons] at hids
    have htail := (List.nodup_append.mp hids).2.1
    refine (List.nodup_cons.mp htail).1 ?_
    rw [hid, ← hsame]
    exact List.mem_map_of_mem hother

/-- An id is shown as the code of a source exactly if it is the id of this source, provided that
    neither ids nor codes repeat and no source has the placeholder for a code. -/
theorem labelCell_eq_text_iff (hids : (sources.map Source.id).Nodup)
    (hcodes : (sources.map Source.dcid).Nodup)
    (hplaceholder : ∀ s ∈ sources, s.dcid ≠ Cell.placeholder) {source : Source}
    (hsource : source ∈ sources) {id : Int} :
    labelCell sources (.integer id) = .text source.dcid ↔ id = source.id := by
  have hlabel : label? sources (.integer id) = code? sources id := rfl
  unfold labelCell
  rw [hlabel, Cell.text.injEq]
  cases hcode : code? sources id with
  | none =>
    constructor
    · intro heq
      exact absurd heq.symm (hplaceholder source hsource)
    · intro hid
      have hfound := (code?_eq_some_iff hids).mpr ⟨source, hsource, hid.symm, rfl⟩
      rw [hcode] at hfound
      cases hfound
  | some code =>
    obtain ⟨other, hother, hid, hdcid⟩ := (code?_eq_some_iff hids).mp hcode
    rw [Option.getD_some, ← hid, ← hdcid]
    constructor
    · intro heq
      rw [List.inj_on_of_nodup_map hcodes hother hsource heq]
    · intro heq
      rw [List.inj_on_of_nodup_map hids hother hsource heq]

end Source

/-! ### Rows of the summary -/

/-- The cell of a report's source is its id. -/
theorem Reports.get?_rowOf {t : StoredTable} (hsummary : t.IsSummary) {row : List StoredValue}
    {source : Int} {day : Day} (h : Reports t.shape row source day) :
    (t.rowOf row).get? sourceColumn = some (.integer source) := by
  have hcell := Selected.getD_get?_toRow hsummary.distinct hsummary.hasSource row
  rw [h.1] at hcell
  unfold StoredTable.rowOf
  cases hget : (Selected.toRow (t.shape.columns.map Column.name) row).get? sourceColumn with
  | none =>
    rw [hget] at hcell
    cases hcell
  | some cell =>
    rw [hget] at hcell
    exact congrArg some hcell

/-- A report is picked for a day if it is one of this day. -/
theorem Reports.satisfies_ofDay {shape : TableShape} {row : List StoredValue} {source : Int}
    {day date : Day} (h : Reports shape row source day) (hday : day.HasPlainYear)
    (hdate : date.HasPlainYear) :
    (RowFilter.ofDay date).conditions.all (Selection.satisfies shape row) = true ↔ day = date := by
  have hconditions : (RowFilter.ofDay date).conditions =
      [⟨dayColumn, .atLeast, .ofText date.text⟩, ⟨dayColumn, .atMost, .ofText date.text⟩] := rfl
  rw [hconditions, List.all_cons, List.all_cons, List.all_nil, Bool.and_true, Bool.and_eq_true,
    h.satisfies_day_atLeast hday hdate, h.satisfies_day_atMost hday hdate, decide_eq_true_iff,
    decide_eq_true_iff, Day.le_def, Day.le_def, ← Day.number_inj]
  omega

namespace Report

open Availability (nodeColumn columnLabel)

/-! ### The mark of a source -/

/-- The cell of a source under a day in a calendar. -/
def calendarCell? (calendar : Section) (source : Source) (day : Day) : Option Cell :=
  (calendar.table.rows.find? fun row => row.get? nodeColumn == some (.text source.dcid)).bind
    fun row => row.get? (columnLabel day)

/-- The row of a source is found by its code, if no other source has the same. -/
theorem IsCalendarOf.calendarCell? {days : List Day} {sources : List Source}
    {pairs : List (Int × Day)} {calendar : Section} (h : IsCalendarOf days sources pairs calendar)
    (hcodes : (sources.map Source.dcid).Nodup) {source : Source} (hsource : source ∈ sources)
    {day : Day} (hday : day ∈ days) :
    calendarCell? calendar source day = some (.flag (decide ((source.id, day) ∈ pairs))) := by
  obtain ⟨-, -, hrows, -⟩ := h
  unfold Report.calendarCell?
  generalize calendar.table.rows = rows at hrows ⊢
  -- the rows stand in the order of the sources, so the search skips those of other sources
  induction hrows with
  | nil => cases hsource
  | @cons first row others rest hfirst hrest ih =>
    rw [List.map_cons, List.nodup_cons] at hcodes
    rcases List.mem_cons.mp hsource with rfl | hmem
    · rw [List.find?_cons_of_pos (by rw [hfirst.1]; exact beq_self_eq_true _)]
      exact hfirst.2 day hday
    · have hne : first.dcid ≠ source.dcid := by
        intro heq
        exact hcodes.1 (heq ▸ List.mem_map.mpr ⟨source, hmem, rfl⟩)
      rw [List.find?_cons_of_neg (by rw [hfirst.1]; simpa using hne)]
      exact ih hcodes.2 hmem

/-- The calendar of a month marks the day of the page, provided that it does not lie after today. -/
theorem calendarCell?_calendarSection {db : Database} {t : StoredTable} {sources : List Source}
    {today date : Day} (ht : db.table? (TableKind.storeName .summary) = some t)
    (hsummary : t.IsSummary) (hcodes : (sources.map Source.dcid).Nodup)
    (hdate : date.HasPlainYear) (htoday : date ≤ today) {source : Source}
    (hsource : source ∈ sources) :
    calendarCell? (calendarSection today date ⟨sources, none⟩
        (reportsIn db.reportStore (Day.monthWindow today date)).value) source date =
      some (.flag true) ↔ ∃ row ∈ t.rows, Reports t.shape row source.id date := by
  have hmem : date ∈ (Day.monthWindow today date).days :=
    Day.mem_days_monthWindow.mpr ⟨⟨rfl, rfl⟩, htoday⟩
  obtain ⟨hlow, hhigh⟩ := DayWindow.mem_days.mp hmem
  -- both ends of the window have the year of the date
  have hplain : ∀ d, (Day.monthWindow today date).first ≤ d →
      d ≤ (Day.monthWindow today date).last → d.HasPlainYear := by
    intro d hfirst hlast
    have hyear := (Day.mem_days_monthWindow.mp (DayWindow.mem_days.mpr ⟨hfirst, hlast⟩)).1.1
    exact ⟨by rw [hyear]; exact hdate.1, by rw [hyear]; exact hdate.2⟩
  have hends := Int.le_trans hlow hhigh
  obtain ⟨pairs, hpairs, hiff⟩ := Database.value_reportDays ht hsummary
    (hplain _ (Int.le_refl _) hends) (hplain _ hends (Int.le_refl _))
  obtain ⟨shown, hshown, hsame⟩ := exists_value_reportsIn hpairs
  rw [hshown, (isCalendarOf_calendarSection today date sources hsame).calendarCell? hcodes hsource
    hmem, Option.some.injEq, Cell.flag.injEq, decide_eq_true_iff, hiff]
  constructor
  · rintro ⟨-, -, hrow⟩
    exact hrow
  · intro hrow
    exact ⟨hlow, hhigh, hrow⟩

/-! ### The row of a source -/

/-- A filter of days asks for no other column. -/
theorem hasColumn_ofDay {t : StoredTable} (hsummary : t.IsSummary) (date : Day) :
    ∀ c ∈ (RowFilter.ofDay date).conditions, t.shape.HasColumn c.column := by
  have hcolumns : (RowFilter.ofDay date).conditions.map Condition.column =
      [dayColumn, dayColumn] := rfl
  intro c hc
  have hcolumn : c.column ∈ [dayColumn, dayColumn] := hcolumns ▸ List.mem_map.mpr ⟨c, hc, rfl⟩
  rw [show c.column = dayColumn by simpa using hcolumn]
  exact hsummary.hasDay

/-- The row of a report shows the code of a source exactly if this source reported. -/
theorem get?_shownRow_summary_iff {t : StoredTable} {sources : List Source}
    (hsummary : t.IsSummary) (hids : (sources.map Source.id).Nodup)
    (hcodes : (sources.map Source.dcid).Nodup)
    (hplaceholder : ∀ s ∈ sources, s.dcid ≠ Cell.placeholder) {source : Source}
    (hsource : source ∈ sources) {row : List StoredValue} {id : Int} {day : Day}
    (h : Reports t.shape row id day) :
    (Table.shownRow sources (TableKind.header .summary) (t.rowOf row)).get? sourceColumn =
      some (.text source.dcid) ↔ id = source.id := by
  rw [Table.get?_shownRow (by decide) _ (by decide), Option.some.injEq]
  unfold Table.shownCell
  rw [h.get?_rowOf hsummary]
  exact Source.labelCell_eq_text_iff hids hcodes hplaceholder hsource

/-- The summary shows a row with the code of a source exactly if a stored row says that the source
    reported on the day. -/
theorem exists_mem_rows_summary_iff {db : Database} {t : StoredTable} {sources : List Source}
    {date : Day} (ht : db.table? (TableKind.storeName .summary) = some t)
    (hsummary : t.IsSummary) (horder : t.shape.HasColumn (TableKind.sortColumn .summary))
    (hids : (sources.map Source.id).Nodup) (hcodes : (sources.map Source.dcid).Nodup)
    (hplaceholder : ∀ s ∈ sources, s.dcid ≠ Cell.placeholder) (hdate : date.HasPlainYear)
    {source : Source} (hsource : source ∈ sources) :
    (∃ row ∈ (tableSection (dailyPlan .summary) sources
        (db.reportStore.fetchRows .summary (RowFilter.ofDay date)
          [TableKind.sortColumn .summary]).value).table.rows,
      row.get? sourceColumn = some (.text source.dcid)) ↔
      ∃ row ∈ t.rows, Reports t.shape row source.id date := by
  have hsort : ∀ name ∈ [TableKind.sortColumn .summary], t.shape.HasColumn name := by
    intro name hname
    rw [List.mem_singleton.mp hname]
    exact horder
  have hperm := ((Question.rows .summary (RowFilter.ofDay date)
    [TableKind.sortColumn .summary]).picked_perm t).map t.rowOf
  rw [Database.value_fetchRows ht (hasColumn_ofDay hsummary date) hsort]
  show (∃ row ∈ (List.map t.rowOf _).map (Table.shownRow sources (TableKind.header .summary)),
    _) ↔ _
  have hshown {row : List StoredValue} {id : Int} {day : Day}
      (h : Reports t.shape row id day) :=
    get?_shownRow_summary_iff hsummary hids hcodes hplaceholder hsource h
  constructor
  · rintro ⟨shown, hmem, hget⟩
    obtain ⟨raw, hraw, rfl⟩ := List.mem_map.mp hmem
    obtain ⟨row, hrow, rfl⟩ := List.mem_map.mp (hperm.mem_iff.mp hraw)
    obtain ⟨hstored, hpicked⟩ := List.mem_filter.mp hrow
    obtain ⟨id, day, hday, hreports⟩ := hsummary.reports row hstored
    have hid := (hshown hreports).mp hget
    have heq := (hreports.satisfies_ofDay hday hdate).mp hpicked
    rw [← hid, ← heq]
    exact ⟨row, hstored, hreports⟩
  · rintro ⟨row, hstored, hreports⟩
    have hpicked := (hreports.satisfies_ofDay hdate hdate).mpr rfl
    refine ⟨_, List.mem_map.mpr ⟨t.rowOf row, ?_, rfl⟩, (hshown hreports).mpr rfl⟩
    exact hperm.mem_iff.mpr (List.mem_map.mpr ⟨row, List.mem_filter.mpr ⟨hstored, hpicked⟩, rfl⟩)

/-! ### The page -/

/-- Whether a calendar and a summary tell the same of a day: a source has a mark under the day
    exactly if the summary has a row with its code. -/
def TellSame (sources : List Source) (date : Day) (calendar summary : Section) : Prop :=
  ∀ source ∈ sources, calendarCell? calendar source date = some (.flag true) ↔
    ∃ row ∈ summary.table.rows, row.get? sourceColumn = some (.text source.dcid)

theorem anchor_calendarSection (today date : Day) (sources : KnownSources)
    (reported : Except StoreError (List (Int × Day))) :
    (calendarSection today date sources reported).anchor = "Availability" := by
  cases reported with
  | ok pairs => rfl
  | error e => rfl

theorem title_tableSection (plan : SectionPlan) (sources : List Source)
    (fetched : Except StoreError (List Row)) :
    (tableSection plan sources fetched).title = plan.title := by
  cases fetched with
  | ok rows => rfl
  | error e => rfl

/-- The first two sections of the daily page. -/
theorem exists_sections_daily_summary {store : ReportStore} {sources : List Source}
    (hsources : store.sources.value = .ok sources) (today date : Day) (showAll : Bool)
    (updated : Option String) :
    ∃ rest, (daily store today date showAll updated).value.sections =
      calendarSection today date ⟨sources, none⟩
          (reportsIn store (Day.monthWindow today date)).value ::
        tableSection (dailyPlan .summary) sources
          (store.fetchRows .summary (RowFilter.ofDay date) [TableKind.sortColumn .summary]).value ::
        rest := by
  have hknown : (knownSources store).value = ⟨sources, none⟩ := by
    unfold knownSources
    rw [Noted.value_bind, hsources]
    rfl
  -- the summary is the first of the tables, with or without the private ones
  obtain ⟨others, hothers⟩ : ∃ others, TableKind.dailyTables showAll = .summary :: others := by
    cases showAll with
    | false => exact ⟨_, rfl⟩
    | true => exact ⟨_, rfl⟩
  rw [sections_daily]
  unfold dailySections
  rw [hothers]
  simp only [List.map_append, List.map_cons, List.cons_append, hknown]
  exact ⟨_, rfl⟩

/-- Without its table the summary is not answered, and the calendar is not either. -/
theorem tellSame_of_table?_eq_none {db : Database} {sources : KnownSources} {codes : List Source}
    {today date : Day} (ht : db.table? (TableKind.storeName .summary) = none)
    (htoday : date ≤ today) :
    TellSame codes date
      (calendarSection today date sources
        (reportsIn db.reportStore (Day.monthWindow today date)).value)
      (tableSection (dailyPlan .summary) codes (db.reportStore.fetchRows .summary
        (RowFilter.ofDay date) [TableKind.sortColumn .summary]).value) := by
  have hmem : date ∈ (Day.monthWindow today date).days :=
    Day.mem_days_monthWindow.mpr ⟨⟨rfl, rfl⟩, htoday⟩
  obtain ⟨hlow, hhigh⟩ := DayWindow.mem_days.mp hmem
  have hempty : (Day.monthWindow today date).isEmpty = false :=
    decide_eq_false (Int.not_lt.mpr (Int.le_trans hlow hhigh))
  have hfailed : Failed (db.reportStore.reportDays (Day.monthWindow today date).first
      (Day.monthWindow today date).last) :=
    Database.exists_value_askFor_eq_error (s := Question.reportDays _ _) ht reportPairs
  have hreports := exists_value_reportsIn_eq_error_iff.mpr ⟨hempty, hfailed⟩
  have hcalendar : (calendarSection today date sources
      (reportsIn db.reportStore (Day.monthWindow today date)).value).table.rows = [] :=
    rows_calendarSection_eq_nil today date (.inr hreports)
  obtain ⟨e, he⟩ : ∃ e, (db.reportStore.fetchRows .summary (RowFilter.ofDay date)
      [TableKind.sortColumn .summary]).value = .error e :=
    Database.exists_value_ask_eq_error (s := Question.rows _ _ _) ht
  intro source _
  unfold calendarCell?
  rw [hcalendar, he]
  constructor
  · intro hcell
    cases hcell
  · rintro ⟨row, hrow, -⟩
    cases hrow

/-- The daily page of a day up to today tells the same of it in the calendar and in the summary. -/
theorem tellSame_daily {db : Database} {sources : List Source} {today date : Day}
    (hsummary : ∀ t, db.table? (TableKind.storeName .summary) = some t →
      t.IsSummary ∧ t.shape.HasColumn (TableKind.sortColumn .summary))
    (hsources : db.reportStore.sources.value = .ok sources)
    (hids : (sources.map Source.id).Nodup) (hcodes : (sources.map Source.dcid).Nodup)
    (hplaceholder : ∀ s ∈ sources, s.dcid ≠ Cell.placeholder) (hdate : date.HasPlainYear)
    (htoday : date ≤ today) (showAll : Bool) (updated : Option String) :
    ∃ calendar summary rest,
      (daily db.reportStore today date showAll updated).value.sections =
        calendar :: summary :: rest ∧
      calendar.anchor = "Availability" ∧ summary.title = "Table Summary" ∧
      TellSame sources date calendar summary := by
  obtain ⟨rest, hsections⟩ := exists_sections_daily_summary hsources today date showAll updated
  refine ⟨_, _, rest, hsections, anchor_calendarSection .., title_tableSection .., ?_⟩
  cases ht : db.table? (TableKind.storeName .summary) with
  | none => exact tellSame_of_table?_eq_none ht htoday
  | some t =>
    obtain ⟨hreports, horder⟩ := hsummary t ht
    intro source hsource
    rw [calendarCell?_calendarSection ht hreports hcodes hdate htoday hsource,
      exists_mem_rows_summary_iff ht hreports horder hids hcodes hplaceholder hdate hsource]

/-! ### A leap day -/

/-- The table of three sources. -/
def leapSourceTable : StoredTable where
  shape := Schema.source
  rows :=
    [[.integer 1, .ofText "a.example", .integer 80, .ofText "A", .null],
      [.integer 2, .ofText "b.example", .integer 80, .ofText "B", .null],
      [.integer 3, .ofText "c.example", .integer 80, .ofText "C", .null]]

/-- A store with these sources and reports around a leap day. -/
def leapDayStore : Database where
  tables := [leapSourceTable, Availability.summaryOf Availability.leapReports]

/-- The page of a leap day, on which one of three sources reported. -/
theorem tellSame_daily_leapDayStore :
    leapDayStore.reportStore.sources.value = .ok Availability.leapSources ∧
      ∃ calendar summary rest,
        (daily leapDayStore.reportStore ⟨2024, 3, 1, by decide⟩ ⟨2024, 2, 29, by decide⟩ false
          none).value.sections = calendar :: summary :: rest ∧
        calendar.anchor = "Availability" ∧ summary.title = "Table Summary" ∧
        TellSame Availability.leapSources ⟨2024, 2, 29, by decide⟩ calendar summary := by
  have hsources : leapDayStore.reportStore.sources.value = .ok Availability.leapSources := by
    rw [Database.value_sources (t := leapSourceTable) rfl rfl (by decide +kernel)]
    decide +kernel
  have htable : leapDayStore.table? (TableKind.storeName .summary) =
      some (Availability.summaryOf Availability.leapReports) := by rfl
  have hsummary : ∀ t, leapDayStore.table? (TableKind.storeName .summary) = some t →
      t.IsSummary ∧ t.shape.HasColumn (TableKind.sortColumn .summary) := by
    intro t ht
    rw [htable] at ht
    cases ht
    have horder : (Schema.ofKind .summary).HasColumn (TableKind.sortColumn .summary) := by decide
    refine ⟨Availability.isSummary_summaryOf ?_, horder⟩
    intro r hr
    have hyear : ∀ r ∈ Availability.leapReports, r.2.year = 2024 := by decide
    exact ⟨by rw [hyear r hr]; decide, by rw [hyear r hr]; decide⟩
  exact ⟨hsources, tellSame_daily hsummary hsources (by decide) (by decide) (by decide)
    ⟨by decide, by decide⟩ (by decide) false none⟩

/-! ### A summary that cannot be ordered -/

/-- A summary with no column of requests, by which the daily page orders it. -/
def bareSummary : StoredTable where
  shape := TableShape.untyped (TableKind.storeName .summary) [dayColumn, sourceColumn]
  rows := [[.ofText "2024-02-29", .integer 1]]

/-- A store with this summary. -/
def bareStore : Database where
  tables :=
    [{ shape := Schema.source,
        rows := [[.integer 1, .ofText "a.example", .integer 80, .ofText "A", .null]] },
      bareSummary]

theorem isSummary_bareSummary : bareSummary.IsSummary where
  distinct := by decide
  hasDay := by decide
  hasSource := by decide
  isConverted := StoredTable.isConverted_of_converted (by decide +kernel)
  reports := by
    intro row hrow
    rw [List.mem_singleton.mp hrow]
    exact ⟨1, ⟨2024, 2, 29, by decide⟩, ⟨by decide, by decide⟩, by decide +kernel,
      by decide +kernel⟩

/-- The calendar does not need the order of the summary: it marks a day for which the summary shows
    an error in place of the row. -/
theorem not_tellSame_bareStore :
    bareStore.table? (TableKind.storeName .summary) = some bareSummary ∧ bareSummary.IsSummary ∧
      bareStore.reportStore.sources.value = .ok [⟨1, "a.example", 80, "A"⟩] ∧
      ∃ calendar summary rest,
        (daily bareStore.reportStore ⟨2024, 3, 1, by decide⟩ ⟨2024, 2, 29, by decide⟩ false
          none).value.sections = calendar :: summary :: rest ∧
        calendar.anchor = "Availability" ∧ summary.title = "Table Summary" ∧
        ¬ TellSame [⟨1, "a.example", 80, "A"⟩] ⟨2024, 2, 29, by decide⟩ calendar summary := by
  have htable : bareStore.table? (TableKind.storeName .summary) = some bareSummary := by rfl
  have hsources : bareStore.reportStore.sources.value = .ok [⟨1, "a.example", 80, "A"⟩] := by
    decide +kernel
  obtain ⟨rest, hsections⟩ := exists_sections_daily_summary hsources
    ⟨2024, 3, 1, by decide⟩ ⟨2024, 2, 29, by decide⟩ false none
  refine ⟨htable, isSummary_bareSummary, hsources, _, _, rest, hsections,
    anchor_calendarSection .., title_tableSection .., ?_⟩
  intro hsame
  have hmem : (⟨1, "a.example", 80, "A"⟩ : Source) ∈ [⟨1, "a.example", 80, "A"⟩] :=
    List.mem_singleton.mpr rfl
  have hreported : ∃ row ∈ bareSummary.rows,
      Reports bareSummary.shape row 1 ⟨2024, 2, 29, by decide⟩ :=
    ⟨_, List.mem_singleton.mpr rfl, by decide +kernel, by decide +kernel⟩
  have htoday : (⟨2024, 2, 29, by decide⟩ : Day) ≤ ⟨2024, 3, 1, by decide⟩ := by decide
  have hmark := (calendarCell?_calendarSection htable isSummary_bareSummary (by decide)
    ⟨by decide, by decide⟩ htoday hmem).mpr hreported
  obtain ⟨row, hrow, -⟩ := (hsame _ hmem).mp hmark
  have hnone : (tableSection (dailyPlan .summary) [⟨1, "a.example", 80, "A"⟩]
      (bareStore.reportStore.fetchRows .summary (RowFilter.ofDay ⟨2024, 2, 29, by decide⟩)
        [TableKind.sortColumn .summary]).value).table.rows = [] := by decide +kernel
  rw [hnone] at hrow
  cases hrow

end Report

end NodeReport

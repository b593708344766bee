import NodeReport.Proofs.Availability
import NodeReport.Proofs.Calendar.Month
import NodeReport.Proofs.Page.Isolation

/-! # The calendar of the daily page

  The calendar has a column for each day of the month up to today and a row for each source. Rows
  and links are maps from labels of two digits, so everything rests on labels that differ: within a
  month the label gives the day back, and the label of the first column is none of a day.
-/

namespace NodeReport

namespace Availability

/-! ### Labels -/

theorem toList_columnLabel (d : Day) : (columnLabel d).toList = paddedDigits 2 d.day :=
  String.toList_ofList

/-- Within a month the label of a column gives the day back. -/
theorem columnLabel_inj {a b : Day} (h : a.SameMonth b) :
    columnLabel a = columnLabel b ↔ a = b := by
  constructor
  · intro hlabel
    have hdigits : paddedDigits 2 a.day = paddedDigits 2 b.day := by
      rw [← toList_columnLabel, ← toList_columnLabel, hlabel]
    have hday : a.day = b.day := by
      rw [← digitsValue_paddedDigits 2 a.day, hdigits, digitsValue_paddedDigits]
    exact Day.eq_of_fields h.1 h.2 hday
  · rintro rfl
    rfl

/-- The label of a day is made of digits, unlike that of the first column. -/
theorem columnLabel_ne_nodeColumn (d : Day) : columnLabel d ≠ nodeColumn := by
  intro heq
  have hmem : 'E' ∈ (columnLabel d).toList := by
    rw [heq]
    decide
  rw [toList_columnLabel] at hmem
  exact absurd (isDigit_of_mem_paddedDigits hmem) (by decide)

variable {days : List Day}

/-- The days of a list lie in one month, each once. -/
def InOneMonth (days : List Day) : Prop :=
  days.Pairwise fun a b => a.SameMonth b ∧ a ≠ b

theorem nodup_map_columnLabel (h : InOneMonth days) : (days.map columnLabel).Nodup := by
  unfold List.Nodup
  rw [List.pairwise_map]
  refine List.Pairwise.imp ?_ h
  rintro a b ⟨hmonth, hne⟩ hlabel
  exact hne ((columnLabel_inj hmonth).mp hlabel)

theorem nodup_header (h : InOneMonth days) : (nodeColumn :: days.map columnLabel).Nodup := by
  refine List.nodup_cons.mpr ⟨?_, nodup_map_columnLabel h⟩
  intro hmem
  obtain ⟨d, -, hd⟩ := List.mem_map.mp hmem
  exact columnLabel_ne_nodeColumn d hd

/-! ### Rows and links -/

/-- The row of a source puts a mark under the label of each day. -/
theorem calendarRow_map (source : Source) (present : Day → Bool) :
    calendarRow days source (days.map present) =
      (days.map fun d => (columnLabel d, Cell.flag (present d))).foldl
        (fun row e => row.insert e.1 e.2) (Keyed.empty.insert nodeColumn (.text source.dcid)) := by
  unfold calendarRow
  generalize Keyed.empty.insert nodeColumn (Cell.text source.dcid) = row
  induction days generalizing row with
  | nil => rfl
  | cons d days ih => exact ih _

theorem map_fst_marks (present : Day → Bool) :
    ((days.map fun d => (columnLabel d, Cell.flag (present d))).map fun e => e.1) =
      days.map columnLabel := by
  rw [List.map_map]
  rfl

theorem get?_calendarRow_nodeColumn (source : Source) (present : Day → Bool) :
    (calendarRow days source (days.map present)).get? nodeColumn = some (.text source.dcid) := by
  have hnot : nodeColumn ∉ (days.map fun d => (columnLabel d, Cell.flag (present d))).map
      fun e => e.1 := by
    rw [map_fst_marks]
    intro hmem
    obtain ⟨d, -, hd⟩ := List.mem_map.mp hmem
    exact columnLabel_ne_nodeColumn d hd
  rw [calendarRow_map, Keyed.get?_foldl_insert_of_not_mem hnot, Keyed.get?_insert, if_pos rfl]

theorem get?_calendarRow_columnLabel (h : InOneMonth days) (source : Source)
    (present : Day → Bool) {day : Day} (hday : day ∈ days) :
    (calendarRow days source (days.map present)).get? (columnLabel day) =
      some (.flag (present day)) := by
  have hmem : (columnLabel day, Cell.flag (present day)) ∈
      days.map fun d => (columnLabel d, Cell.flag (present d)) :=
    List.mem_map.mpr ⟨day, hday, rfl⟩
  rw [calendarRow_map]
  refine Keyed.get?_foldl_insert_of_mem ?_ hmem _
  rw [map_fst_marks]
  exact nodup_map_columnLabel h

/-- The links are those of the days, each under the label of its own day. -/
theorem get?_headerLinks (a : Availability) (h : InOneMonth a.days) (dayLink : Day → String)
    {label target : String} :
    (a.toOptions dayLink).headerLinks.get? label = some target ↔
      ∃ day ∈ a.days, label = columnLabel day ∧ target = dayLink day := by
  have hnodup : ((a.days.map fun d => (columnLabel d, dayLink d)).map fun e => e.1).Nodup := by
    rw [List.map_map]
    exact nodup_map_columnLabel h
  unfold toOptions
  simp only
  rw [Keyed.get?_ofList_eq_some_iff hnodup, List.mem_map]
  constructor
  · rintro ⟨day, hday, heq⟩
    cases heq
    exact ⟨day, hday, rfl, rfl⟩
  · rintro ⟨day, hday, rfl, rfl⟩
    exact ⟨day, hday, rfl⟩

end Availability

namespace Report

open Availability (nodeColumn columnLabel)

/-! ### Months up to today -/

/-- The days of a day's month that do not lie after today, in order. -/
structure IsMonthUpTo (today date : Day) (days : List Day) : Prop where
  /-- The days follow each other. -/
  ordered : days.Pairwise (· < ·)
  /-- They are those of the month. -/
  mem_iff : ∀ d, d ∈ days ↔ (d.year = date.year ∧ d.month = date.month) ∧ d ≤ today

theorem isMonthUpTo_monthWindow (today date : Day) :
    IsMonthUpTo today date (Day.monthWindow today date).days where
  ordered := DayWindow.pairwise_days _
  mem_iff := fun _ => Day.mem_days_monthWindow

theorem IsMonthUpTo.inOneMonth {today date : Day} {days : List Day}
    (h : IsMonthUpTo today date days) : Availability.InOneMonth days := by
  refine List.Pairwise.imp_of_mem ?_ h.ordered
  intro a b ha hb hlt
  obtain ⟨hyear, hmonth⟩ := ((h.mem_iff a).mp ha).1
  obtain ⟨hyear', hmonth'⟩ := ((h.mem_iff b).mp hb).1
  refine ⟨⟨by rw [hyear, hyear'], by rw [hmonth, hmonth']⟩, ?_⟩
  rintro rfl
  exact Int.lt_irrefl _ hlt

/-! ### The section -/

/-- A section that shows as a calendar which of the sources reported on which of the days. -/
structure IsCalendarOf (days : List Day) (sources : List Source) (pairs : List (Int × Day))
    (s : Section) : Prop where
  /-- A column of codes, and one for each day. -/
  header_eq : s.table.header = nodeColumn :: days.map columnLabel
  /-- No two columns have the same label. -/
  nodup_header : s.table.header.Nodup
  /-- A row for each source has its code, and a mark for each day on which it reported. -/
  rows : List.Forall₂ (fun source row => row.get? nodeColumn = some (.text source.dcid) ∧
    ∀ day ∈ days, row.get? (columnLabel day) = some (.flag (decide ((source.id, day) ∈ pairs))))
    sources s.table.rows
  /-- The labels of days link to the pages of these days, and nothing else is a link. -/
  links : ∀ label target, s.options.headerLinks.get? label = some target ↔
    ∃ day ∈ days, label = columnLabel day ∧ target = dailyTarget day

/-- A calendar is told by the reports on its own days. -/
theorem isCalendarOf_calendarSection (today date : Day) (sources : List Source)
    {shown pairs : List (Int × Day)}
    (h : ∀ day ∈ (Day.monthWindow today date).days, ∀ id, (id, day) ∈ shown ↔ (id, day) ∈ pairs) :
    IsCalendarOf (Day.monthWindow today date).days sources pairs
      (calendarSection today date ⟨sources, none⟩ (.ok shown)) := by
  have hmonth := (isMonthUpTo_monthWindow today date).inOneMonth
  refine ⟨rfl, Availability.nodup_header hmonth, ?_, ?_⟩
  · -- the grid has a list of marks for each source, and the two lists are read side by side
    have hrows : (calendarSection today date ⟨sources, none⟩ (.ok shown)).table.rows =
        sources.map fun source => Availability.calendarRow (Day.monthWindow today date).days source
          ((Day.monthWindow today date).days.map fun day => shown.contains (source.id, day)) := by
      show List.map _ ((sources.zip (sources.map _))) = _
      rw [List.zip_map_right, List.map_map, ← List.map_id sources, List.zip_map', List.map_map,
        List.map_map]
      rfl
    rw [hrows, List.forall₂_map_right_iff, List.forall₂_same]
    intro source _
    refine ⟨Availability.get?_calendarRow_nodeColumn .., ?_⟩
    intro day hday
    have hcell : shown.contains (source.id, day) = decide ((source.id, day) ∈ pairs) := by
      rw [Bool.eq_iff_iff, List.contains_iff_mem, decide_eq_true_iff]
      exact h day hday source.id
    rw [Availability.get?_calendarRow_columnLabel hmonth source _ hday, hcell]
  · intro label target
    exact Availability.get?_headerLinks _ hmonth dailyTarget

/-- Reports of an empty window are not asked for, but the window has no day to show them on. -/
theorem exists_value_reportsIn {store : ReportStore} {window : DayWindow}
    {pairs : List (Int × Day)}
    (h : (store.reportDays window.first window.last).value = .ok pairs) :
    ∃ shown, (reportsIn store window).value = .ok shown ∧
      ∀ day ∈ window.days, ∀ id, (id, day) ∈ shown ↔ (id, day) ∈ pairs := by
  unfold reportsIn
  by_cases hempty : window.isEmpty = true
  · rw [if_pos hempty]
    refine ⟨[], rfl, ?_⟩
    intro day hday
    obtain ⟨hlow, hhigh⟩ := DayWindow.mem_days.mp hday
    have hlt : window.last.number < window.first.number := of_decide_eq_true hempty
    rw [Day.le_def] at hlow hhigh
    omega
  · rw [if_neg hempty]
    exact ⟨pairs, h, fun _ _ _ => Iff.rfl⟩

theorem exists_sections_daily {store : ReportStore} {today date : Day} {sources : KnownSources}
    {reported : Except StoreError (List (Int × Day))}
    (hsources : (knownSources store).value = sources)
    (hreported : (reportsIn store (Day.monthWindow today date)).value = reported)
    (showAll : Bool) (updated : Option String) :
    ∃ rest, (daily store today date showAll updated).value.sections =
      calendarSection today date sources reported :: rest := by
  rw [sections_daily, ← hsources, ← hreported]
  exact ⟨_, rfl⟩

/-- The first section of the daily page shows which sources reported on which days of the month, up
    to today. -/
theorem calendar_daily {store : ReportStore} {today date : Day} {sources : List Source}
    {pairs : List (Int × Day)} (hsources : store.sources.value = .ok sources)
    (hreports : (store.reportDays (Day.monthWindow today date).first
      (Day.monthWindow today date).last).value = .ok pairs)
    (showAll : Bool) (updated : Option String) :
    ∃ calendar rest days,
      (daily store today date showAll updated).value.sections = calendar :: rest ∧
        calendar.anchor = "Availability" ∧ calendar.error = none ∧
        IsMonthUpTo today date days ∧ IsCalendarOf days sources pairs calendar := by
  have hknown : (knownSources store).value = ⟨sources, none⟩ := by
    unfold knownSources
    rw [Noted.value_bind, hsources]
    rfl
  obtain ⟨shown, hshown, hsame⟩ := exists_value_reportsIn hreports
  obtain ⟨rest, hrest⟩ := exists_sections_daily hknown hshown showAll updated
  exact ⟨_, rest, _, hrest, rfl, rfl, isMonthUpTo_monthWindow today date,
    isCalendarOf_calendarSection today date sources hsame⟩

/-- A store that answers from a list of reports around a leap day. -/
def leapAnswers : ReportStore where
  sources := ⟨.ok Availability.leapSources, []⟩
  fetchRows _ _ _ := ⟨.ok [], []⟩
  hasReport day source := ⟨.ok (Availability.leapReports.contains (source, day)), []⟩
  reportDays first last :=
    ⟨.ok (Availability.leapReports.filter fun r => decide (first ≤ r.2 ∧ r.2 ≤ last)), []⟩

/-- The calendar of a February with a leap day, on which one of three sources reported. -/
theorem calendar_daily_leapAnswers :
    leapAnswers.sources.value = .ok Availability.leapSources ∧
      (leapAnswers.reportDays
        (Day.monthWindow ⟨2024, 3, 1, by decide⟩ ⟨2024, 2, 10, by decide⟩).first
        (Day.monthWindow ⟨2024, 3, 1, by decide⟩ ⟨2024, 2, 10, by decide⟩).last).value =
          .ok [(1, ⟨2024, 2, 29, by decide⟩)] ∧
      ∃ calendar rest days,
        (daily leapAnswers ⟨2024, 3, 1, by decide⟩ ⟨2024, 2, 10, by decide⟩ false
          none).value.sections = calendar :: rest ∧
          calendar.anchor = "Availability" ∧ calendar.error = none ∧
          IsMonthUpTo ⟨2024, 3, 1, by decide⟩ ⟨2024, 2, 10, by decide⟩ days ∧
          IsCalendarOf days Availability.leapSources [(1, ⟨2024, 2, 29, by decide⟩)] calendar := by
  have hreports : (leapAnswers.reportDays
      (Day.monthWindow ⟨2024, 3, 1, by decide⟩ ⟨2024, 2, 10, by decide⟩).first
      (Day.monthWindow ⟨2024, 3, 1, by decide⟩ ⟨2024, 2, 10, by decide⟩).last).value =
        .ok [(1, ⟨2024, 2, 29, by decide⟩)] := by decide +kernel
  exact ⟨rfl, hreports, calendar_daily rfl hreports false none⟩

end Report

end NodeReport

import Mathlib.Data.List.Forall2
import NodeReport.Proofs.Page.Network

/-! # Failures stay in their sections

  Every section of a page is made from the list of sources and from one inquiry of its own. An
  inquiry that fails leaves the heading and the columns of its section, empties its table, and is
  not noticed by any other section:

  * `IsAnswerTo` says this of one section, as a function of the store;
  * `KeepsFailuresApart` says it of a page, and follows from what holds of each section.
-/

namespace NodeReport

/-- What a section shows whether its data could be read or not. -/
def Section.outline (s : Section) : String × String × List String :=
  (s.title, s.anchor, s.table.header)

namespace Report

/-! ### Inquiries -/

/-- Whether an answer is missing. -/
def Failed {α : Type} (answer : Answer α) : Prop :=
  ∃ e, answer.value = .error e

/-- What a section asks of a store, besides its sources. -/
inductive Inquiry where
  /-- Who reported on the days of a window. -/
  | reports (window : DayWindow)
  /-- The rows of a table. -/
  | rows (kind : TableKind) (filter : RowFilter) (order : List String)

namespace Inquiry

/-- Whether a section cannot be made for want of an answer. A calendar also needs the sources, and
    nobody is asked about an empty window. -/
def Fails (store : ReportStore) : Inquiry → Prop
  | reports window => Failed store.sources ∨
      window.isEmpty = false ∧ Failed (store.reportDays window.first window.last)
  | rows kind filter order => Failed (store.fetchRows kind filter order)

/-- Whether two stores give the same answer. -/
def SameAnswer (a b : ReportStore) : Inquiry → Prop
  | reports window => window.isEmpty = false →
      (a.reportDays window.first window.last).value = (b.reportDays window.first window.last).value
  | rows kind filter order =>
      (a.fetchRows kind filter order).value = (b.fetchRows kind filter order).value

end Inquiry

/-- The inquiries of the daily page, one for each section. -/
def dailyInquiries (today date : Day) (showAll : Bool) : List Inquiry :=
  .reports (Day.monthWindow today date) ::
    (TableKind.dailyTables showAll).map
      (fun kind => .rows kind (RowFilter.ofDay date) [kind.sortColumn])
    ++ [.rows .messages (monthFilter date) [TableKind.dayColumn, "message"]]

/-- The inquiries of the page of a network, one for each section. -/
def networkInquiries (code : String) (date : Day) : List Inquiry :=
  [.rows .network { monthFilter date with network := some code }
      [TableKind.dayColumn, Table.sourceColumn],
    .rows .network (monthFilter date) [RowFilter.networkColumn]]

/-! ### One section -/

/-- A section that depends on the sources and on its own inquiry only. -/
structure IsAnswerTo (inquiry : Inquiry) (made : ReportStore → Section) : Prop where
  /-- Heading, name and columns are the same for every store. -/
  outline_eq : ∀ a b, (made a).outline = (made b).outline
  /-- There is an error exactly if the inquiry fails. -/
  error_iff : ∀ store, (made store).error.isSome ↔ inquiry.Fails store
  /-- A failed inquiry leaves neither rows nor totals. -/
  empty_of_fails : ∀ store, inquiry.Fails store →
    (made store).table.rows = [] ∧ (made store).table.sums = none
  /-- Stores that give the same answers have the same section. -/
  eq_of_sameAnswer : ∀ a b, a.sources.value = b.sources.value → inquiry.SameAnswer a b →
    made a = made b

theorem knownSources_congr {a b : ReportStore} (h : a.sources.value = b.sources.value) :
    (knownSources a).value = (knownSources b).value := by
  unfold knownSources
  rw [Noted.value_bind, Noted.value_bind, h]

theorem error_knownSources_isSome_iff {store : ReportStore} :
    (knownSources store).value.error.isSome ↔ Failed store.sources := by
  unfold knownSources Failed
  rw [Noted.value_bind]
  cases store.sources.value with
  | ok sources => simp
  | error e => simp

/-- Sources that cannot be listed are none. -/
theorem list_knownSources_of_failed {store : ReportStore} (h : Failed store.sources) :
    (knownSources store).value.list = [] := by
  obtain ⟨e, he⟩ := h
  unfold knownSources
  rw [Noted.value_bind, he]
  rfl

/-- A section with a table is an answer to the inquiry for its rows, also if these are worked over
    before they are shown. -/
theorem isAnswerTo_tableSection (plan : SectionPlan) (kind : TableKind) (filter : RowFilter)
    (order : List String) (work : List Row → List Row) :
    IsAnswerTo (.rows kind filter order) fun store =>
      tableSection plan (knownSources store).value.list
        ((store.fetchRows kind filter order).value.map work) where
  outline_eq := by
    intro a b
    have hplan : ∀ sources fetched, (tableSection plan sources fetched).outline =
        (plan.title, plan.anchor, plan.header) := by
      intro sources fetched
      cases fetched with
      | ok rows => rfl
      | error e => rfl
    rw [hplan, hplan]
  error_iff := by
    intro store
    show _ ↔ ∃ e, (store.fetchRows kind filter order).value = .error e
    cases (store.fetchRows kind filter order).value with
    | ok rows => simp [tableSection, Except.map]
    | error e => simp [tableSection, Except.map]
  empty_of_fails := by
    rintro store ⟨e, he⟩
    rw [he]
    exact ⟨rfl, rfl⟩
  eq_of_sameAnswer := by
    intro a b hsources hanswer
    show tableSection plan _ (Except.map work (a.fetchRows kind filter order).value) = _
    rw [knownSources_congr hsources, hanswer]

/-! ### The calendar -/

theorem outline_calendarSection (today date : Day) (sources : KnownSources)
    (reported : Except StoreError (List (Int × Day))) :
    (calendarSection today date sources reported).outline =
      (calendarTitle date, "Availability", Availability.nodeColumn ::
        (Day.monthWindow today date).days.map Availability.columnLabel) := by
  cases reported with
  | ok pairs => rfl
  | error e => rfl

theorem error_calendarSection_isSome_iff (today date : Day) (sources : KnownSources)
    (reported : Except StoreError (List (Int × Day))) :
    (calendarSection today date sources reported).error.isSome ↔
      sources.error.isSome ∨ ∃ e, reported = .error e := by
  cases reported with
  | ok pairs => simp [calendarSection]
  | error e => simp [calendarSection]

/-- A calendar has no rows without sources, and none without reports. -/
theorem rows_calendarSection_eq_nil (today date : Day) {sources : KnownSources}
    {reported : Except StoreError (List (Int × Day))}
    (h : sources.list = [] ∨ ∃ e, reported = .error e) :
    (calendarSection today date sources reported).table.rows = [] := by
  rcases h with h | ⟨e, rfl⟩
  · cases reported with
    | ok pairs => simp [calendarSection, Availability.toTable, Availability.ofPairs, h]
    | error e => rfl
  · rfl

/-- Reports in a window fail only if somebody is asked for them. -/
theorem exists_value_reportsIn_eq_error_iff {store : ReportStore} {window : DayWindow} :
    (∃ e, (reportsIn store window).value = .error e) ↔
      window.isEmpty = false ∧ Failed (store.reportDays window.first window.last) := by
  unfold reportsIn
  cases window.isEmpty with
  | true => simp
  | false => simp [Failed]

theorem isAnswerTo_calendarSection (today date : Day) :
    IsAnswerTo (.reports (Day.monthWindow today date)) fun store =>
      calendarSection today date (knownSources store).value
        (reportsIn store (Day.monthWindow today date)).value where
  outline_eq := by
    intro a b
    rw [outline_calendarSection, outline_calendarSection]
  error_iff := by
    intro store
    rw [error_calendarSection_isSome_iff, error_knownSources_isSome_iff,
      exists_value_reportsIn_eq_error_iff]
    rfl
  empty_of_fails := by
    intro store hfails
    refine ⟨rows_calendarSection_eq_nil today date ?_, ?_⟩
    · rcases hfails with hsources | hreports
      · exact .inl (list_knownSources_of_failed hsources)
      · exact .inr (exists_value_reportsIn_eq_error_iff.mpr hreports)
    · cases (reportsIn store (Day.monthWindow today date)).value with
      | ok pairs => rfl
      | error e => rfl
  eq_of_sameAnswer := by
    intro a b hsources hanswer
    have hreports : (reportsIn a (Day.monthWindow today date)).value =
        (reportsIn b (Day.monthWindow today date)).value := by
      unfold reportsIn
      by_cases hempty : (Day.monthWindow today date).isEmpty = true
      · rw [if_pos hempty, if_pos hempty]
      · rw [if_neg hempty, if_neg hempty]
        exact hanswer (by simpa using hempty)
    show calendarSection today date _ (reportsIn a _).value = _
    rw [knownSources_congr hsources, hreports]

/-! ### Pages -/

/-- A page on which a failed inquiry shows in its own section only. -/
structure KeepsFailuresApart (page : ReportStore → Page) (inquiries : List Inquiry) : Prop where
  /-- Which sections there are, and under which headings and columns, is the same for every
      store. -/
  outlines_eq : ∀ a b, (page a).sections.map Section.outline = (page b).sections.map Section.outline
  /-- There is a section for each inquiry. It has an error exactly if the inquiry fails, and then
      neither rows nor totals. -/
  failures : ∀ store, List.Forall₂ (fun inquiry s => (s.error.isSome ↔ inquiry.Fails store) ∧
    (inquiry.Fails store → s.table.rows = [] ∧ s.table.sums = none)) inquiries (page store).sections
  /-- Stores that list the same sources and give the same answer to the inquiry of a section have
      the same section, whatever they answer to the other inquiries. -/
  section_eq : ∀ a b, a.sources.value = b.sources.value → ∀ (i : Nat) (inquiry : Inquiry),
    inquiries[i]? = some inquiry → inquiry.SameAnswer a b →
      (page a).sections[i]? = (page b).sections[i]?

/-- A page made of sections that each depend on their own inquiry keeps failures apart. -/
theorem keepsFailuresApart_of_isAnswerTo {page : ReportStore → Page} {inquiries : List Inquiry}
    (made : List (ReportStore → Section))
    (hsections : ∀ store, (page store).sections = made.map fun s => s store)
    (hmade : List.Forall₂ IsAnswerTo inquiries made) : KeepsFailuresApart page inquiries where
  outlines_eq := by
    intro a b
    rw [hsections, hsections, List.map_map, List.map_map]
    apply List.map_congr_left
    intro s hs
    -- a section of the page answers to one of the inquiries, and so has a fixed outline
    obtain ⟨i, hi⟩ := List.mem_iff_get.mp hs
    have hlength := hmade.length_eq
    have hanswer := hmade.get (i := i) (by omega) i.isLt
    rw [← hi]
    exact hanswer.outline_eq a b
  failures := by
    intro store
    rw [hsections, List.forall₂_map_right_iff]
    refine hmade.imp ?_
    intro inquiry s hanswer
    exact ⟨hanswer.error_iff store, hanswer.empty_of_fails store⟩
  section_eq := by
    intro a b hsources i inquiry hi hsame
    rw [hsections, hsections, List.getElem?_map, List.getElem?_map]
    obtain ⟨hlt, hget⟩ := List.getElem?_eq_some_iff.mp hi
    have hlt' : i < made.length := by
      rw [← hmade.length_eq]
      exact hlt
    have hanswer := hmade.get hlt hlt'
    rw [List.getElem?_eq_getElem hlt']
    rw [← hget] at hsame
    exact congrArg some (hanswer.eq_of_sameAnswer a b hsources hsame)

/-- The sections of the daily page, each as a function of the store. -/
def dailySections (today date : Day) (showAll : Bool) : List (ReportStore → Section) :=
  (fun store => calendarSection today date (knownSources store).value
      (reportsIn store (Day.monthWindow today date)).value) ::
    (TableKind.dailyTables showAll).map (fun kind store =>
      tableSection (dailyPlan kind) (knownSources store).value.list
        (store.fetchRows kind (RowFilter.ofDay date) [kind.sortColumn]).value)
    ++ [fun store => tableSection monthMessagesPlan (knownSources store).value.list
      (store.fetchRows .messages (monthFilter date) [TableKind.dayColumn, "message"]).value]

/-- Notices are no part of a calendar. -/
theorem value_fetchCalendar (store : ReportStore) (today date : Day) (sources : KnownSources) :
    (fetchCalendar store today date sources).value =
      calendarSection today date sources (reportsIn store (Day.monthWindow today date)).value := by
  unfold fetchCalendar
  rw [Noted.value_bind]
  cases (reportsIn store (Day.monthWindow today date)).value with
  | ok pairs => rfl
  | error e => rfl

theorem value_fetchSection (plan : SectionPlan) (sources : List Source)
    (fetched : Noted (Except StoreError (List Row))) :
    (fetchSection plan sources fetched).value = tableSection plan sources fetched.value :=
  rfl

theorem sections_daily (store : ReportStore) (today date : Day) (showAll : Bool)
    (updated : Option String) :
    (daily store today date showAll updated).value.sections =
      (dailySections today date showAll).map fun s => s store := by
  unfold daily dailySections
  simp only [Noted.value_bind, Noted.value_pure, Noted.value_each, value_fetchCalendar,
    value_fetchSection, List.map_cons, List.map_append, List.map_map, List.map_nil]
  rfl

/-- Totals of all networks are a work on the rows that were fetched. -/
theorem value_networkTotals (fetched : Noted (Except StoreError (List Row))) :
    (networkTotals fetched).value = fetched.value.map fun rows =>
      totalsBy rows RowFilter.networkColumn daysColumn (TableKind.summable .network) := by
  unfold networkTotals
  rw [Noted.value_bind]
  cases fetched.value with
  | ok rows => rfl
  | error e => rfl

/-- A table of the rows as they were fetched. -/
theorem isAnswerTo_fetched (plan : SectionPlan) (kind : TableKind) (filter : RowFilter)
    (order : List String) :
    IsAnswerTo (.rows kind filter order) fun store =>
      tableSection plan (knownSources store).value.list
        (store.fetchRows kind filter order).value := by
  have h := isAnswerTo_tableSection plan kind filter order id
  simpa using h

theorem keepsFailuresApart_daily (today date : Day) (showAll : Bool) (updated : Option String) :
    KeepsFailuresApart (fun store => (daily store today date showAll updated).value)
      (dailyInquiries today date showAll) := by
  refine keepsFailuresApart_of_isAnswerTo (dailySections today date showAll)
    (fun store => sections_daily store today date showAll updated) ?_
  refine .cons (isAnswerTo_calendarSection today date) (List.rel_append ?_ ?_)
  · rw [List.forall₂_map_left_iff, List.forall₂_map_right_iff, List.forall₂_same]
    intro kind _
    exact isAnswerTo_fetched ..
  · exact .cons (isAnswerTo_fetched ..) .nil

/-- The totals of all networks depend on the rows of the month. -/
theorem isAnswerTo_networksSection (date : Day) :
    IsAnswerTo (.rows .network (monthFilter date) [RowFilter.networkColumn]) fun store =>
      networksSection store date := by
  unfold networksSection
  simp only [value_networkTotals]
  exact isAnswerTo_tableSection ..

theorem keepsFailuresApart_network (today : Day) (code : String) (date : Day)
    (updated : Option String) :
    KeepsFailuresApart (fun store => (network store today code date updated).value)
      (networkInquiries code date) := by
  refine keepsFailuresApart_of_isAnswerTo
    [fun store => requestsSection store code date, fun store => networksSection store date]
    (fun store => sections_network store today code date updated) ?_
  exact .cons (isAnswerTo_fetched ..) (.cons (isAnswerTo_networksSection date) .nil)

/-- On the daily page and on the page of a network a failed inquiry shows in its own section
    only. -/
theorem failures_stay_in_their_sections (today date : Day) (showAll : Bool) (code : String)
    (updated : Option String) :
    KeepsFailuresApart (fun store => (daily store today date showAll updated).value)
        (dailyInquiries today date showAll) ∧
      KeepsFailuresApart (fun store => (network store today code date updated).value)
        (networkInquiries code date) :=
  ⟨keepsFailuresApart_daily today date showAll updated,
    keepsFailuresApart_network today code date updated⟩

end Report

end NodeReport

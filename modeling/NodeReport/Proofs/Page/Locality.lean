import NodeReport.Proofs.Page.Isolation
import NodeReport.Proofs.Store.Locality

/-! # What a page depends on

  Every inquiry of a page is about days of one month, and without the private tables none of them is
  about who asked for data. So a page is the same for databases that list the same sources and have
  the same rows of the month in the tables that are not private, whatever else they hold. Rows that
  the page does not order are shown as the store meets them, and this order is not settled by what
  the rows are: keys, indexes and what is known of the values in a table all have a say in it.
-/

namespace NodeReport

open Day (monthWindow)

attribute [ext] Page

namespace Report

/-! ### Inquiries about a month -/

namespace Inquiry

/-- The kind of table that an inquiry is about. -/
def kind : Inquiry → TableKind
  | reports _ => .summary
  | rows kind _ _ => kind

/-- Whether an inquiry is about days of a month only; nobody is asked about an empty window. -/
def IsWithinMonth (date : Day) : Inquiry → Prop
  | reports window => window.isEmpty = false →
      window.first.SameMonth date ∧ window.last.SameMonth date
  | rows _ filter _ => filter.IsWithinMonth date

/-- Whether two databases have rows that an inquiry leaves tied met in the same order. -/
def SameTies (a b : Database) : Inquiry → Prop
  | reports window => window.isEmpty = false →
      (Question.reportDays window.first window.last).SameTies a b
  | rows kind filter order => (Question.rows kind filter order).SameTies a b

/-- Databases with the same rows of the month in the table of an inquiry give the same answer to it,
    if ties are met in the same order. -/
theorem sameAnswer_of_sameInMonth {inquiry : Inquiry} {date : Day} {a b : Database}
    (hwithin : inquiry.IsWithinMonth date)
    (h : Database.Related (StoredTable.SameInMonth date) inquiry.kind.storeName a b)
    (hties : inquiry.SameTies a b) : inquiry.SameAnswer a.reportStore b.reportStore := by
  cases inquiry with
  | reports window =>
    intro hempty
    obtain ⟨hfirst, hlast⟩ := hwithin hempty
    exact congrArg Noted.value
      (Database.reportDays_eq_of_sameInMonth hfirst hlast h (hties hempty))
  | rows kind filter order =>
    exact congrArg Noted.value (Database.fetchRows_eq_of_sameInMonth hwithin h hties)

/-- Tables that are alike have ties met in the same order. -/
theorem sameTies_of_samePlans {inquiry : Inquiry} {date : Day} {a b : Database}
    (hwithin : inquiry.IsWithinMonth date)
    (h : Database.Related (StoredTable.SameInMonth date) inquiry.kind.storeName a b)
    (hplans : Database.Related StoredTable.SamePlans inquiry.kind.storeName a b) :
    inquiry.SameTies a b := by
  cases inquiry with
  | reports window =>
    intro hempty
    obtain ⟨hfirst, hlast⟩ := hwithin hempty
    have hdays : (RowFilter.ofDays window.first window.last).IsWithinMonth date :=
      ⟨⟨_, rfl, hfirst⟩, ⟨_, rfl, hlast⟩⟩
    exact Selection.sameTies_of_samePlans (fun _ _ => hdays.hasDayBetween) h hplans
  | rows kind filter order =>
    exact Selection.sameTies_of_samePlans (fun _ _ => hwithin.hasDayBetween) h hplans

end Inquiry

theorem isWithinMonth_ofDay (date : Day) : (RowFilter.ofDay date).IsWithinMonth date :=
  ⟨⟨date, rfl, rfl, rfl⟩, ⟨date, rfl, rfl, rfl⟩⟩

theorem isWithinMonth_monthFilter (date : Day) : (monthFilter date).IsWithinMonth date :=
  ⟨⟨date.monthStart, rfl, date.monthStart_spec.1⟩, ⟨date.monthEnd, rfl, date.monthEnd_spec.1⟩⟩

/-- The window of a month ends in the month unless it is empty, also if today cuts it short. -/
theorem isWithinMonth_monthWindow (today date : Day) :
    (Inquiry.reports (monthWindow today date)).IsWithinMonth date := by
  intro hempty
  have hle : (monthWindow today date).first ≤ (monthWindow today date).last :=
    Int.not_lt.mp (of_decide_eq_false hempty)
  have hmonth : ∀ d, (monthWindow today date).first ≤ d → d ≤ (monthWindow today date).last →
      d.SameMonth date := by
    intro d hlow hhigh
    have hmem : d ∈ (monthWindow today date).days := DayWindow.mem_days.mpr ⟨hlow, hhigh⟩
    exact (Day.mem_days_monthWindow.mp hmem).1
  exact ⟨hmonth _ (Int.le_refl _) hle, hmonth _ hle (Int.le_refl _)⟩

/-- The daily page asks for the calendar, for the tables of the day, and for the month's messages. -/
theorem mem_dailyInquiries {today date : Day} {showAll : Bool} {inquiry : Inquiry} :
    inquiry ∈ dailyInquiries today date showAll ↔
      inquiry = .reports (monthWindow today date) ∨
      (∃ kind ∈ TableKind.dailyTables showAll,
        .rows kind (RowFilter.ofDay date) [kind.sortColumn] = inquiry) ∨
      inquiry = .rows .messages (monthFilter date) [TableKind.dayColumn, "message"] := by
  simp only [dailyInquiries, List.cons_append, List.mem_cons, List.mem_append, List.mem_map,
    List.not_mem_nil, or_false]

theorem isWithinMonth_of_mem_dailyInquiries {today date : Day} {showAll : Bool} {inquiry : Inquiry}
    (h : inquiry ∈ dailyInquiries today date showAll) : inquiry.IsWithinMonth date := by
  rcases mem_dailyInquiries.mp h with rfl | ⟨kind, -, rfl⟩ | rfl
  · exact isWithinMonth_monthWindow today date
  · exact isWithinMonth_ofDay date
  · exact isWithinMonth_monthFilter date

theorem isWithinMonth_of_mem_networkInquiries {code : String} {date : Day} {inquiry : Inquiry}
    (h : inquiry ∈ networkInquiries code date) : inquiry.IsWithinMonth date := by
  unfold networkInquiries at h
  simp only [List.mem_cons, List.not_mem_nil, or_false] at h
  rcases h with rfl | rfl
  · exact ⟨(isWithinMonth_monthFilter date).first, (isWithinMonth_monthFilter date).last⟩
  · exact isWithinMonth_monthFilter date

/-! ### Pages about a month -/

variable {a b : Database} {date : Day}

/-- A page of sections with inquiries about a month has the same sections for databases with the
    same rows of the month in the tables of these inquiries, if ties are met in the same order. -/
theorem KeepsFailuresApart.sections_eq {page : ReportStore → Page} {inquiries : List Inquiry}
    (h : KeepsFailuresApart page inquiries) (hwithin : ∀ i ∈ inquiries, i.IsWithinMonth date)
    (hsources : a.reportStore.sources = b.reportStore.sources)
    (hsame : ∀ i ∈ inquiries,
      Database.Related (StoredTable.SameInMonth date) i.kind.storeName a b)
    (hties : ∀ i ∈ inquiries, i.SameTies a b) :
    (page a.reportStore).sections = (page b.reportStore).sections := by
  have hlist := congrArg Noted.value hsources
  apply List.ext_getElem?
  intro i
  cases hi : inquiries[i]? with
  | some inquiry =>
    have hmem := List.mem_of_getElem? hi
    have hanswer := Inquiry.sameAnswer_of_sameInMonth (hwithin inquiry hmem) (hsame inquiry hmem)
      (hties inquiry hmem)
    exact h.section_eq _ _ hlist i inquiry hi hanswer
  | none =>
    -- there are as many sections as inquiries
    have hlength := List.getElem?_eq_none_iff.mp hi
    have hnone : ∀ store, (page store).sections[i]? = none := by
      intro store
      rw [List.getElem?_eq_none_iff, ← (h.failures store).length_eq]
      exact hlength
    rw [hnone, hnone]

theorem kind_mem_of_mem_dailyInquiries {today : Day} {inquiry : Inquiry}
    (h : inquiry ∈ dailyInquiries today date false) :
    inquiry.kind ∈ [TableKind.summary, .request, .volume, .network, .messages] := by
  rcases mem_dailyInquiries.mp h with rfl | ⟨kind, hkind, rfl⟩ | rfl
  · simp [Inquiry.kind]
  · -- the private tables and that of stations are left out
    have htables : TableKind.dailyTables false =
        [TableKind.summary, .request, .volume, .network, .messages] := by decide
    rwa [htables] at hkind
  · simp [Inquiry.kind]

theorem kind_of_mem_networkInquiries {code : String} {inquiry : Inquiry}
    (h : inquiry ∈ networkInquiries code date) : inquiry.kind = .network := by
  unfold networkInquiries at h
  simp only [List.mem_cons, List.not_mem_nil, or_false] at h
  rcases h with rfl | rfl
  · rfl
  · rfl

/-- Neither private tables nor other months show on a page. Databases with the same sources, and with
    the same rows of a month in the tables of the daily page, have the same daily page for each day
    of it, provided that in each inquiry of the page they have ties met in the same order; and
    databases with the same rows of networks have the same page for every network. -/
theorem pages_eq_of_sameInMonth (a b : Database) (date : Day)
    (hsources : Database.Related StoredTable.SameContent Schema.sourceTable a b)
    (hties : Question.sources.SameTies a b) :
    ((∀ kind ∈ [TableKind.summary, .request, .volume, .network, .messages],
        Database.Related (StoredTable.SameInMonth date) kind.storeName a b) →
      ∀ today, (∀ i ∈ dailyInquiries today date false, i.SameTies a b) →
        ∀ updated, (daily a.reportStore today date false updated).value =
          (daily b.reportStore today date false updated).value) ∧
    (Database.Related (StoredTable.SameInMonth date) (TableKind.storeName .network) a b →
      ∀ code, (∀ i ∈ networkInquiries code date, i.SameTies a b) →
        ∀ today updated, (network a.reportStore today code date updated).value =
          (network b.reportStore today code date updated).value) := by
  have hlist := Database.sources_eq_of_sameContent hsources hties
  -- heading and navigation do not come from the store
  constructor
  · intro hsame today hinquiries updated
    have hsections := (keepsFailuresApart_daily today date false updated).sections_eq
      (fun _ => isWithinMonth_of_mem_dailyInquiries) hlist
      (fun i hi => hsame i.kind (kind_mem_of_mem_dailyInquiries hi)) hinquiries
    exact Page.ext rfl rfl rfl hsections
  · intro hsame code hinquiries today updated
    have hsections := (keepsFailuresApart_network today code date updated).sections_eq
      (fun _ => isWithinMonth_of_mem_networkInquiries) hlist
      (fun i hi => by
        rw [kind_of_mem_networkInquiries hi]
        exact hsame) hinquiries
    exact Page.ext rfl rfl rfl hsections

/-! ### Two stores with the same February -/

/-- The day of the reports. -/
def reportDay : Day := ⟨2024, 2, 27, by decide⟩

/-- A day on which the reports are read. -/
def readingDay : Day := ⟨2024, 3, 5, by decide⟩

/-- A store with a source and its reports of a day, and with other rows of the summary and of
    users. -/
def februaryStore (summaries users : List (List StoredValue)) : Database where
  tables :=
    [{ shape := Schema.source
       rows := [[.integer 1, .ofText "a.example", .integer 80, .ofText "A", .null]] },
      { shape := Schema.ofKind .summary
        rows := summaries ++ [[.ofText "2024-02-27", .integer 1, .integer 3, .integer 0, .integer 0,
          .integer 2, .integer 4, .integer 9, .integer 2048]] },
      { shape := Schema.ofKind .user, rows := users },
      { shape := Schema.ofKind .network
        rows := [[.ofText "2024-02-27", .integer 1, .ofText "CH", .integer 3, .integer 9, .integer 0,
          .integer 0, .integer 2048, .null]] }]

/-- A row of the summary that belongs to the month before. -/
def januarySummary : List StoredValue :=
  [.ofText "2024-01-31", .integer 1, .integer 7, .integer 1, .integer 1, .integer 5, .integer 6,
    .integer 40, .integer 4096]

/-- A user's requests of the day. -/
def februaryUser : List StoredValue :=
  [.ofText "2024-02-27", .integer 1, .ofText "somebody", .integer 3, .integer 9, .integer 0,
    .integer 2048]

/-- A user and a report of January make no difference in February. -/
theorem pages_eq_februaryStore :
    februaryStore [januarySummary] [februaryUser] ≠ februaryStore [] [] ∧
      (daily (februaryStore [januarySummary] [februaryUser]).reportStore readingDay reportDay false
          none).value =
        (daily (februaryStore [] []).reportStore readingDay reportDay false none).value ∧
      (network (februaryStore [januarySummary] [februaryUser]).reportStore readingDay "CH" reportDay
          none).value =
        (network (februaryStore [] []).reportStore readingDay "CH" reportDay none).value := by
  have hsources : Database.Related StoredTable.SameContent Schema.sourceTable
      (februaryStore [januarySummary] [februaryUser]) (februaryStore [] []) := by decide +kernel
  have hsourcePlans : Database.Related StoredTable.SamePlans Schema.sourceTable
      (februaryStore [januarySummary] [februaryUser]) (februaryStore [] []) := by decide +kernel
  have hsame : ∀ kind ∈ [TableKind.summary, .request, .volume, .network, .messages],
      Database.Related (StoredTable.SameInMonth reportDay) kind.storeName
        (februaryStore [januarySummary] [februaryUser]) (februaryStore [] []) := by
    decide +kernel
  have hplans : ∀ kind ∈ [TableKind.summary, .request, .volume, .network, .messages],
      Database.Related StoredTable.SamePlans kind.storeName
        (februaryStore [januarySummary] [februaryUser]) (februaryStore [] []) := by
    decide +kernel
  -- the tables differ in their rows only, and are met alike
  have hties := Selection.sameTies_of_samePlans (s := Question.sources) (fun _ _ _ => rfl) hsources
    hsourcePlans
  have hpages := pages_eq_of_sameInMonth _ _ reportDay hsources hties
  refine ⟨by decide +kernel, hpages.1 hsame readingDay ?_ none,
    hpages.2 (hsame .network (by decide)) "CH" ?_ readingDay none⟩
  · intro i hi
    have hkind := kind_mem_of_mem_dailyInquiries hi
    exact Inquiry.sameTies_of_samePlans (isWithinMonth_of_mem_dailyInquiries hi)
      (hsame i.kind hkind) (hplans i.kind hkind)
  · intro i hi
    have hkind := kind_of_mem_networkInquiries hi
    refine Inquiry.sameTies_of_samePlans (isWithinMonth_of_mem_networkInquiries hi) ?_ ?_
    · rw [hkind]
      exact hsame .network (by decide)
    · rw [hkind]
      exact hplans .network (by decide)

/-! ### Rows that the order does not tell apart -/

/-- A row of the summary of the day. The number of requests, by which the daily page orders the
    rows, is the same for all of them. -/
def tiedSummary (source users : Int) : List StoredValue :=
  [.ofText "2024-02-27", .integer source, .integer 3, .integer 0, .integer 0, .integer users,
    .integer 4, .integer 9, .integer 2048]

/-- A table of two such rows, stored by descending source. -/
def tiedTable (key : TableKey) : StoredTable where
  shape := { Schema.ofKind .summary with key }
  rows := [tiedSummary 2 20, tiedSummary 1 10]

/-- A store with this table and two sources. -/
def tiedStore (key : TableKey) : Database where
  tables :=
    [tiedTable key,
      { shape := Schema.source
        rows := [[.integer 1, .ofText "a.example", .integer 80, .ofText "A", .null],
          [.integer 2, .ofText "b.example", .integer 80, .ofText "B", .null]] }]

/-- The rows of the day, as the daily page asks for them. -/
def reportSelection : Selection :=
  Question.rows .summary (RowFilter.ofDay reportDay) [TableKind.sortColumn .summary]

theorem mergeSort_pair {α : Type} (le : α → α → Bool) (x y : α) :
    [x, y].mergeSort le = if le x y then [x, y] else [y, x] := by
  simp [List.mergeSort, List.MergeSort.Internal.splitInTwo, List.merge]

theorem satisfying_tiedTable (key : TableKey) :
    reportSelection.satisfying (tiedTable key) = [tiedSummary 2 20, tiedSummary 1 10] := by
  show ([tiedSummary 2 20, tiedSummary 1 10].filter fun row =>
    reportSelection.conditions.all (Selection.satisfies (Schema.ofKind .summary) row)) =
      [tiedSummary 2 20, tiedSummary 1 10]
  decide +kernel

/-- The two rows stay in the order in which they are met. -/
theorem picked_tiedTable (key : TableKey) :
    reportSelection.picked (tiedTable key) = reportSelection.met (tiedTable key) := by
  have htied : ∀ x ∈ [tiedSummary 2 20, tiedSummary 1 10],
      ∀ y ∈ [tiedSummary 2 20, tiedSummary 1 10],
        Selection.comesFirst (Schema.ofKind .summary) reportSelection.order x y = true := by
    decide +kernel
  -- none of the two comes before the other
  apply List.mergeSort_of_pairwise
  apply List.pairwise_of_forall_mem_list
  intro x hx y hy
  have hperm := reportSelection.met_perm (tiedTable key)
  rw [satisfying_tiedTable] at hperm
  have hle := htied x (hperm.mem_iff.mp hx) y (hperm.mem_iff.mp hy)
  -- the key is no part of the order
  unfold Selection.comesFirst at *
  rwa [TableShape.orderBy_congr (show (tiedTable key).shape.columns = (Schema.ofKind .summary).columns from rfl)]

/-- What the first row of the summary shows in the column of users. -/
theorem users_tiedStore {key : TableKey} {first : List StoredValue} {rest : List (List StoredValue)}
    (hmet : reportSelection.met (tiedTable key) = first :: rest)
    {cell : Cell} (hcell : ((tiedTable key).rowOf first).get? "users" = some cell) (today : Day) :
    ((daily (tiedStore key).reportStore today reportDay false none).value.sections[1]?.bind fun s =>
      s.table.rows.head?.bind fun r => r.get? "users") = some cell := by
  have htable : (tiedStore key).table? reportSelection.table = some (tiedTable key) :=
    List.find?_cons_of_pos (sameName_self _)
  have hcolumns : ∀ name ∈ reportSelection.namedColumns, (tiedTable key).shape.HasColumn name := by
    show ∀ name ∈ reportSelection.namedColumns, (Schema.ofKind .summary).HasColumn name
    decide
  have hrun := Selection.run_eq_ok htable hcolumns
  rw [picked_tiedTable, hmet] at hrun
  have hfetch : ((tiedStore key).reportStore.fetchRows .summary (RowFilter.ofDay reportDay)
      [TableKind.sortColumn .summary]).value =
        .ok ((tiedTable key).rowOf first :: rest.map (tiedTable key).rowOf) :=
    Database.value_ask hrun
  have hsection : (daily (tiedStore key).reportStore today reportDay false none).value.sections[1]? =
      some (tableSection (dailyPlan .summary) (knownSources (tiedStore key).reportStore).value.list
        ((tiedStore key).reportStore.fetchRows .summary (RowFilter.ofDay reportDay)
          [TableKind.sortColumn .summary]).value) := by
    rw [sections_daily]
    rfl
  have hshown : ∀ sources, (Table.shownRow sources (TableKind.header .summary)
      ((tiedTable key).rowOf first)).get? "users" = some cell := by
    intro sources
    exact Table.get?_shownRow_of_get? (by decide) (by decide) (by decide) hcell
  rw [hsection, hfetch, Option.bind_some]
  show ((List.map (Table.shownRow _ (TableKind.header .summary)) (_ :: _)).head?.bind _) = _
  rw [List.map_cons, List.head?_cons, Option.bind_some, hshown]

/-- Rows that the order of a page leaves tied are met in the order of the key, if there is one: the
    same rows without the key give another page. -/
theorem daily_tiedStore_ne :
    Database.Related StoredTable.SameContent Schema.sourceTable
        (tiedStore (Schema.ofKind .summary).key) (tiedStore .unkeyed) ∧
      (∀ kind ∈ [TableKind.summary, .request, .volume, .network, .messages],
        Database.Related (StoredTable.SameInMonth reportDay) kind.storeName
          (tiedStore (Schema.ofKind .summary).key) (tiedStore .unkeyed)) ∧
      (daily (tiedStore (Schema.ofKind .summary).key).reportStore readingDay reportDay false
          none).value ≠
        (daily (tiedStore .unkeyed).reportStore readingDay reportDay false none).value := by
  refine ⟨by decide +kernel, by decide +kernel, ?_⟩
  have hkeyed : reportSelection.met (tiedTable (Schema.ofKind .summary).key) =
      [tiedSummary 1 10, tiedSummary 2 20] := by
    have hkey : (tiedTable (Schema.ofKind .summary).key).shape.key =
        .unique [TableKind.dayColumn, Table.sourceColumn] := by rfl
    have hplans : (tiedTable (Schema.ofKind .summary).key).plans = [] := by rfl
    unfold Selection.met
    simp only [hkey, hplans, List.find?_nil, satisfying_tiedTable]
    rw [if_pos (by decide +kernel)]
    exact (mergeSort_pair _ _ _).trans (if_neg (by decide +kernel))
  have hunkeyed : reportSelection.met (tiedTable .unkeyed) =
      [tiedSummary 2 20, tiedSummary 1 10] :=
    satisfying_tiedTable .unkeyed
  intro heq
  have hten : ((tiedTable (Schema.ofKind .summary).key).rowOf (tiedSummary 1 10)).get? "users" =
      some (.integer 10) := by decide +kernel
  have htwenty : ((tiedTable .unkeyed).rowOf (tiedSummary 2 20)).get? "users" =
      some (.integer 20) := by decide +kernel
  have hfirst := users_tiedStore hkeyed hten readingDay
  rw [heq, users_tiedStore hunkeyed htwenty] at hfirst
  cases hfirst

end Report

end NodeReport

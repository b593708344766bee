import NodeReport.Proofs.Calendar.TextOrder
import NodeReport.Proofs.Store.Order
import NodeReport.Store.ReportStore

/-! # Answers about a month

  A question about days of one month looks at no row of another month, and at one table only:

  * `RowFilter.IsWithinMonth.hasDayBetween`: a row that is picked by a filter for some of these days
    has a text between those of the first and the last day of the month;
  * `Selection.run_eq_of_sameRows`: a selection gives the same of two tables with the same rows among
    those that it can pick, provided that rows which its order leaves tied are met in the same order.
-/

namespace NodeReport

open TableKind (dayColumn)

/-! ### Rows of a month -/

/-- Whether the day of a row is a text between those of two days, as the column compares texts. -/
def TableShape.hasDayBetween (shape : TableShape) (first last : Day) (row : List StoredValue) :
    Bool :=
  match shape.valueIn dayColumn row with
  | .text bytes =>
    ((shape.collationOf dayColumn).compare (Text.utf8 first.text) bytes).isLE
      && ((shape.collationOf dayColumn).compare bytes (Text.utf8 last.text)).isLE
  | _ => false

/-- A row between two days of a month lies between the first and the last day of the month. -/
theorem TableShape.hasDayBetween_month {shape : TableShape} {first last date : Day}
    (hfirst : first.SameMonth date) (hlast : last.SameMonth date) {row : List StoredValue}
    (h : shape.hasDayBetween first last row = true) :
    shape.hasDayBetween date.monthStart date.monthEnd row = true := by
  have hstart : date.monthStart ≤ first := (Day.monthStart_le_and_le_monthEnd_iff.mpr hfirst).1
  have hend : last ≤ date.monthEnd := (Day.monthStart_le_and_le_monthEnd_iff.mpr hlast).2
  have hlow := (date.monthStart_spec.1.trans hfirst.symm).textLE hstart
  have hhigh := (hlast.trans date.monthEnd_spec.1.symm).textLE hend
  unfold Day.TextLE at hlow hhigh
  -- the texts of the days themselves are compared in the same way by every column
  rw [← StoredValue.compare_text (shape.collationOf dayColumn)] at hlow hhigh
  unfold hasDayBetween at *
  cases hvalue : shape.valueIn dayColumn row with
  | text bytes =>
    simp only [hvalue, Bool.and_eq_true] at h ⊢
    exact ⟨Std.TransCmp.isLE_trans hlow h.1, Std.TransCmp.isLE_trans h.2 hhigh⟩
  | _ => simp [hvalue] at h

/-- A filter that asks for some days of a month. -/
structure RowFilter.IsWithinMonth (f : RowFilter) (date : Day) : Prop where
  /-- There is a first day, and it is one of the month. -/
  first : ∃ d, f.firstDay = some d ∧ d.SameMonth date
  /-- There is a last day, and it is one of the month. -/
  last : ∃ d, f.lastDay = some d ∧ d.SameMonth date

namespace RowFilter

variable {f : RowFilter} {date : Day}

/-- Only texts lie between two texts: numbers come before them, and other bytes behind. -/
theorem hasDayBetween_of_satisfies {first last : Day} (hfirst : f.firstDay = some first)
    (hlast : f.lastDay = some last) {shape : TableShape} {row : List StoredValue}
    (h : f.conditions.all (Selection.satisfies shape row) = true) :
    shape.hasDayBetween first last row = true := by
  rw [List.all_eq_true] at h
  have hlow := h ⟨dayColumn, .atLeast, .ofText first.text⟩ (by simp [conditions, hfirst])
  have hhigh := h ⟨dayColumn, .atMost, .ofText last.text⟩ (by simp [conditions, hlast])
  unfold TableShape.hasDayBetween
  unfold Selection.satisfies at hlow hhigh
  simp only [StoredValue.apply_text, Bool.and_eq_true] at hlow hhigh
  obtain ⟨⟨hvalue, -⟩, hlow⟩ := hlow
  obtain ⟨-, hhigh⟩ := hhigh
  -- the two conditions together leave texts only
  generalize shape.valueIn dayColumn row = value at hvalue hlow hhigh ⊢
  cases value with
  | null => cases hvalue
  | integer n => cases hlow
  | real x => cases hlow
  | blob bytes => cases hhigh
  | text bytes =>
    have hbelow : ((shape.collationOf dayColumn).compare bytes (Text.utf8 first.text) != .lt) =
        true := hlow
    have habove : ((shape.collationOf dayColumn).compare bytes (Text.utf8 last.text) != .gt) =
        true := hhigh
    rw [bne_iff_ne] at hbelow habove
    rw [Bool.and_eq_true, Ordering.isLE_iff_ne_gt, Ordering.isLE_iff_ne_gt]
    refine ⟨?_, habove⟩
    intro hgt
    exact hbelow (Std.OrientedCmp.lt_of_gt hgt)

theorem IsWithinMonth.hasDayBetween (hf : f.IsWithinMonth date) {shape : TableShape}
    {row : List StoredValue} (h : f.conditions.all (Selection.satisfies shape row) = true) :
    shape.hasDayBetween date.monthStart date.monthEnd row = true := by
  obtain ⟨first, hfirst, hsame⟩ := hf.first
  obtain ⟨last, hlast, hsame'⟩ := hf.last
  exact TableShape.hasDayBetween_month hsame hsame' (hasDayBetween_of_satisfies hfirst hlast h)

end RowFilter

/-! ### Tables with the same rows -/

/-- Two tables with the same columns, and with the same rows among those that are shown, in the same
    order. -/
structure StoredTable.SameRows (shown : TableShape → List StoredValue → Bool) (a b : StoredTable) :
    Prop where
  /-- The columns are the same. -/
  columns_eq : a.shape.columns = b.shape.columns
  /-- The rows that are shown are the same. -/
  rows_eq : a.rows.filter (shown a.shape) = b.rows.filter (shown b.shape)

namespace StoredTable

instance (shown : TableShape → List StoredValue → Bool) : DecidableRel (SameRows shown) :=
  fun a b => decidable_of_iff (a.shape.columns = b.shape.columns ∧
      a.rows.filter (shown a.shape) = b.rows.filter (shown b.shape))
    ⟨fun h => ⟨h.1, h.2⟩, fun h => ⟨h.columns_eq, h.rows_eq⟩⟩

/-- Two tables with the same columns and the same rows of a month. -/
abbrev SameInMonth (date : Day) : StoredTable → StoredTable → Prop :=
  SameRows fun shape => shape.hasDayBetween date.monthStart date.monthEnd

/-- Two tables with the same columns and the same rows. -/
abbrev SameContent : StoredTable → StoredTable → Prop :=
  SameRows fun _ _ => true

/-- Two tables that are alike but for their rows. -/
structure SamePlans (a b : StoredTable) : Prop where
  /-- The shape is the same. -/
  shape_eq : a.shape = b.shape
  /-- The same selections meet rows in orders of their own, and in the same ones. -/
  plans_eq : a.plans = b.plans

instance : DecidableRel SamePlans := fun a b =>
  decidable_of_iff (a.shape = b.shape ∧ a.plans = b.plans)
    ⟨fun h => ⟨h.1, h.2⟩, fun h => ⟨h.shape_eq, h.plans_eq⟩⟩

end StoredTable

/-- Two databases of which either both or none have a table, and the tables are related. -/
def Database.Related (r : StoredTable → StoredTable → Prop) (name : String) (a b : Database) :
    Prop :=
  Option.Rel r (a.table? name) (b.table? name)

instance (r : StoredTable → StoredTable → Prop) [DecidableRel r] (name : String) :
    DecidableRel (Database.Related r name) := fun a b =>
  match ha : a.table? name, hb : b.table? name with
  | some t, some t' => decidable_of_iff (r t t') (by simp [Database.Related, ha, hb])
  | none, none => isTrue (by simp [Database.Related, ha, hb])
  | some t, none => isFalse (by simp [Database.Related, ha, hb])
  | none, some t => isFalse (by simp [Database.Related, ha, hb])

namespace TableShape

/-! Values, their order and what is compared with them depend on the columns only. -/

variable {shape other : TableShape}

theorem columnIndex?_congr (h : shape.columns = other.columns) :
    shape.columnIndex? = other.columnIndex? := by
  unfold columnIndex?
  rw [h]

theorem valueIn_congr (h : shape.columns = other.columns) : shape.valueIn = other.valueIn := by
  unfold valueIn
  rw [columnIndex?_congr h]

theorem affinityOf_congr (h : shape.columns = other.columns) :
    shape.affinityOf = other.affinityOf := by
  unfold affinityOf
  rw [h]

theorem collationOf_congr (h : shape.columns = other.columns) :
    shape.collationOf = other.collationOf := by
  unfold collationOf
  rw [h]

theorem orderBy_congr (h : shape.columns = other.columns) (columns : List String) :
    shape.orderBy columns = other.orderBy columns := by
  induction columns with
  | nil => rfl
  | cons name columns ih =>
    rw [orderBy_cons, orderBy_cons, ih, valueIn_congr h, collationOf_congr h]

end TableShape

namespace Selection

variable {s : Selection} {shown : TableShape → List StoredValue → Bool} {a b : StoredTable}

/-- Whether two tables have rows that a selection leaves tied met in the same order. -/
def TiesAgree (s : Selection) (a b : StoredTable) : Prop :=
  ∀ row ∈ s.satisfying a,
    (s.met a).filter (a.shape.orderBy s.order row · == .eq) =
      (s.met b).filter (a.shape.orderBy s.order row · == .eq)

/-- Whether two databases have rows that a selection leaves tied met in the same order. -/
def SameTies (s : Selection) : Database → Database → Prop :=
  Database.Related s.TiesAgree s.table

theorem satisfies_congr {shape other : TableShape} (h : shape.columns = other.columns) :
    satisfies shape = satisfies other := by
  unfold satisfies
  rw [TableShape.valueIn_congr h, TableShape.affinityOf_congr h, TableShape.collationOf_congr h]

theorem project_congr {shape other : TableShape} (h : shape.columns = other.columns) :
    project shape = project other := by
  unfold project storedNames firstOfEach
  rw [h, TableShape.valueIn_congr h]
  simp only [TableShape.orderBy_congr h]

/-- Only rows that are shown are met. -/
theorem satisfying_eq_of_sameRows (h : a.SameRows shown b)
    (hshown : ∀ shape row, s.conditions.all (satisfies shape row) = true → shown shape row = true) :
    s.satisfying a = s.satisfying b := by
  have hfilter : ∀ t : StoredTable, s.satisfying t =
      (t.rows.filter (shown t.shape)).filter fun row => s.conditions.all (satisfies t.shape row) := by
    intro t
    rw [List.filter_filter]
    apply List.filter_congr
    intro row _
    rw [Bool.eq_iff_iff, Bool.and_eq_true]
    exact ⟨fun hrow => ⟨hrow, hshown t.shape row hrow⟩, fun hrow => hrow.1⟩
  rw [hfilter a, hfilter b, h.rows_eq, satisfies_congr h.columns_eq]

/-- Tables that are alike have the same rows met in the same order. -/
theorem tiesAgree_of_samePlans (h : a.SamePlans b) (hrows : s.satisfying a = s.satisfying b) :
    s.TiesAgree a b := by
  intro row _
  unfold met
  rw [h.shape_eq, h.plans_eq, hrows]

theorem picked_eq_of_tiesAgree (hcolumns : a.shape.columns = b.shape.columns)
    (hrows : s.satisfying a = s.satisfying b) (hties : s.TiesAgree a b) :
    s.picked a = s.picked b := by
  have hperm : (s.picked a).Perm (s.picked b) := by
    have hother := (s.picked_perm b).symm
    rw [← hrows] at hother
    exact (s.picked_perm a).trans hother
  have hsorted := s.pairwise_picked b
  unfold comesFirst at hsorted
  rw [← TableShape.orderBy_congr hcolumns] at hsorted
  apply eq_of_pairwise_of_filter hperm (s.pairwise_picked a) hsorted
  intro row hrow
  have hmet := hties row ((s.picked_perm a).mem_iff.mp hrow)
  unfold picked comesFirst
  rw [← TableShape.orderBy_congr hcolumns, filter_mergeSort_cmp, filter_mergeSort_cmp, hmet]

theorem sameTies_of_samePlans {a b : Database}
    (hshown : ∀ shape row, s.conditions.all (satisfies shape row) = true → shown shape row = true)
    (h : Database.Related (StoredTable.SameRows shown) s.table a b)
    (hplans : Database.Related StoredTable.SamePlans s.table a b) : s.SameTies a b := by
  unfold SameTies
  unfold Database.Related at *
  generalize a.table? s.table = x at h hplans ⊢
  generalize b.table? s.table = y at h hplans ⊢
  cases h with
  | none => exact .none
  | some hsame =>
    cases hplans with
    | some hplans =>
      exact .some (tiesAgree_of_samePlans hplans (satisfying_eq_of_sameRows hsame hshown))

/-- A selection gives the same of tables with the same rows, if ties are met in the same order. -/
theorem run_eq_of_sameRows {a b : Database}
    (hshown : ∀ shape row, s.conditions.all (satisfies shape row) = true → shown shape row = true)
    (h : Database.Related (StoredTable.SameRows shown) s.table a b) (hties : s.SameTies a b) :
    s.run a = s.run b := by
  unfold SameTies at hties
  unfold Database.Related at h hties
  unfold run
  generalize a.table? s.table = x at h hties ⊢
  generalize b.table? s.table = y at h hties ⊢
  cases h with
  | none =>
    -- both selections fail for want of the table
    rfl
  | some hsame =>
    cases hties with
    | some hties =>
      have hcolumns := hsame.columns_eq
      have hpicked := picked_eq_of_tiesAgree hcolumns (satisfying_eq_of_sameRows hsame hshown) hties
      simp only [hpicked, TableShape.columnIndex?_congr hcolumns, project_congr hcolumns]

end Selection

/-! ### Answers -/

namespace Database

variable {a b : Database} {s : Selection} {date : Day}

theorem ask_eq_of_run_eq (h : s.run a = s.run b) : a.ask s = b.ask s := by
  unfold ask
  rw [h]

theorem askFor_eq_of_run_eq {α : Type} (h : s.run a = s.run b) (f : List Row → Noted α) :
    a.askFor s f = b.askFor s f := by
  unfold askFor
  rw [ask_eq_of_run_eq h]

/-- The sources are read from their table only. -/
theorem sources_eq_of_sameContent (h : Related StoredTable.SameContent Schema.sourceTable a b)
    (hties : Question.sources.SameTies a b) : a.reportStore.sources = b.reportStore.sources :=
  askFor_eq_of_run_eq (Selection.run_eq_of_sameRows (fun _ _ _ => rfl) h hties) _

/-- The rows of some days of a month are read from these rows of their table only. -/
theorem fetchRows_eq_of_sameInMonth {kind : TableKind} {f : RowFilter} (hf : f.IsWithinMonth date)
    (h : Related (StoredTable.SameInMonth date) kind.storeName a b) {order : List String}
    (hties : (Question.rows kind f order).SameTies a b) :
    a.reportStore.fetchRows kind f order = b.reportStore.fetchRows kind f order := by
  have hrun : (Question.rows kind f order).run a = (Question.rows kind f order).run b :=
    Selection.run_eq_of_sameRows (fun _ _ => hf.hasDayBetween) h hties
  show (Noted.tell _).bind (fun _ => a.ask _) = (Noted.tell _).bind (fun _ => b.ask _)
  rw [ask_eq_of_run_eq hrun]

/-- Who reported on some days of a month is read from these rows of the summary only. -/
theorem reportDays_eq_of_sameInMonth {first last : Day} (hfirst : first.SameMonth date)
    (hlast : last.SameMonth date)
    (h : Related (StoredTable.SameInMonth date) (TableKind.storeName .summary) a b)
    (hties : (Question.reportDays first last).SameTies a b) :
    a.reportStore.reportDays first last = b.reportStore.reportDays first last := by
  have hwithin : (RowFilter.ofDays first last).IsWithinMonth date :=
    ⟨⟨first, rfl, hfirst⟩, ⟨last, rfl, hlast⟩⟩
  exact askFor_eq_of_run_eq
    (Selection.run_eq_of_sameRows (fun _ _ => hwithin.hasDayBetween) h hties) _

end Database

end NodeReport

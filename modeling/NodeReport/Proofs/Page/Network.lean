import NodeReport.Page.Report
import NodeReport.Proofs.Store.Answer
import NodeReport.Proofs.Store.Conversion
import NodeReport.Proofs.Store.DayValue
import NodeReport.Proofs.Table.Basic
import NodeReport.Proofs.Table.Grouping

/-! # The two tables of a network's page

  The month of one network is added up in two ways: below its own requests, which the store picks
  by the network's code, and in one row of the totals of all networks, which are grouped by the
  texts of the codes. The two agree, because both take the same stored rows, if in another order.
-/

namespace NodeReport

open RowFilter (networkColumn)

/-! ### Rows of networks -/

/-- A table of networks: its rows have the codes of networks, or none, and sizes in the columns
    with totals. -/
structure StoredTable.IsNetwork (t : StoredTable) : Prop where
  /-- Columns are told apart by their names. -/
  distinct : t.shape.HasDistinctNames
  /-- There is a column of codes. -/
  hasCode : t.shape.HasColumn networkColumn
  /-- Codes are compared byte by byte. -/
  collation : t.shape.collationOf networkColumn = .binary
  /-- Every row is held as the columns prefer it. -/
  isConverted : t.IsConverted
  /-- A code is a text of characters, or missing. -/
  codes : ∀ row ∈ t.rows, t.shape.valueIn networkColumn row = .null ∨
    ∃ code, t.shape.valueIn networkColumn row = .ofText code
  /-- Totals are made of sizes. -/
  sizes : ∀ row ∈ t.rows, ∀ column ∈ TableKind.summable .network,
    (t.shape.valueIn column row).toCell.IsSized

theorem Row.groupText_eq (key : String) (row : Row) :
    row.groupText key = ((row.get? key).getD .null).display := by
  unfold Row.groupText
  cases row.get? key with
  | none => rfl
  | some cell => rfl

namespace StoredTable.IsNetwork

variable {t : StoredTable}

/-- The store picks a row by its code exactly if the row is grouped under this code. -/
theorem satisfies_code (h : t.IsNetwork) {row : List StoredValue} (hrow : row ∈ t.rows)
    {code : String} (hcode : code ≠ "") :
    Selection.satisfies t.shape row ⟨networkColumn, .equal, .ofText code⟩ =
      ((t.rowOf row).groupText networkColumn == code) := by
  have hgroup : (t.rowOf row).groupText networkColumn =
      (t.shape.valueIn networkColumn row).toCell.display := by
    rw [Row.groupText_eq]
    unfold StoredTable.rowOf
    rw [Selected.getD_get?_toRow h.distinct h.hasCode]
  have hholds := h.isConverted row hrow networkColumn
  rw [hgroup]
  unfold Selection.satisfies
  simp only
  rcases h.codes row hrow with hnull | ⟨other, hother⟩
  · -- a row without a code is in the group of the empty text
    rw [hnull]
    have hne : ("" == code) = false := beq_eq_false_iff_ne.mpr (Ne.symm hcode)
    exact hne.symm
  · rw [hother, StoredValue.toCell_ofText]
    rw [hother] at hholds
    have hbound : ((t.shape.affinityOf networkColumn).apply (.ofText code) != .null) = true :=
      bne_iff_ne.mpr (Affinity.apply_text_ne_null _ _)
    rw [hbound, Bool.eq_iff_iff, beq_iff_eq]
    show (_ && (_ == Ordering.eq)) = true ↔ other = code
    rw [← Affinity.accepts_equal_iff hholds, h.collation]
    simp [StoredValue.ofText]

/-- The cells in the columns with totals are sizes. -/
theorem isSized_of_mem_columnCells (h : t.IsNetwork) {column : String}
    (hcolumn : column ∈ TableKind.summable .network) {rows : List (List StoredValue)}
    (hrows : rows ⊆ t.rows) : ∀ c ∈ columnCells (rows.map t.rowOf) column, c.IsSized := by
  intro c hc
  obtain ⟨row, hrow, hget⟩ := List.mem_filterMap.mp hc
  obtain ⟨stored, hstored, rfl⟩ := List.mem_map.mp hrow
  rw [Selected.eq_of_get?_toRow h.distinct hget]
  exact h.sizes stored (hrows hstored) column hcolumn

end StoredTable.IsNetwork

/-! ### Requests as a group -/

theorem RowFilter.conditions_network (f : RowFilter) (hf : f.network = none) (code : String) :
    RowFilter.conditions { f with network := some code } =
      f.conditions ++ [⟨networkColumn, .equal, .ofText code⟩] := by
  unfold RowFilter.conditions
  rw [hf]
  simp

/-- The rows that are fetched for one network are its group among the rows of all networks, and
    hold sizes in the columns with totals. -/
theorem Database.requests_perm_groupMembers {db : Database}
    (hnetwork : ∀ t, db.table? (TableKind.storeName .network) = some t → t.IsNetwork)
    {f : RowFilter} (hf : f.network = none) {code : String} (hcode : code ≠ "")
    {order others : List String} {requests rows : List Row}
    (hrequests : (db.reportStore.fetchRows .network { f with network := some code } order).value =
      .ok requests)
    (hrows : (db.reportStore.fetchRows .network f others).value = .ok rows) :
    requests.Perm (groupMembers rows networkColumn code) ∧
      ∀ column ∈ TableKind.summable .network, ∀ c ∈ columnCells requests column, c.IsSized := by
  obtain ⟨t, ht, hrequests⟩ := exists_of_value_fetchRows hrequests
  obtain ⟨t', ht', hrows⟩ := exists_of_value_fetchRows hrows
  rw [ht] at ht'
  cases ht'
  have h := hnetwork t ht
  constructor
  · -- picking by the code and then grouping takes the same rows as one filter for both
    refine hrequests.trans ((hrows.filter _).trans ?_).symm
    rw [List.filter_map, List.filter_filter, f.conditions_network hf]
    apply List.Perm.of_eq
    congr 1
    apply List.filter_congr
    intro row hrow
    rw [List.all_append, List.all_cons, List.all_nil, Bool.and_true, h.satisfies_code hrow hcode]
    exact Bool.and_comm _ _
  · intro column hcolumn c hc
    have hmem := (columnCells_perm hrequests column).mem_iff.mp hc
    exact h.isSized_of_mem_columnCells hcolumn List.filter_sublist.subset c hmem

namespace Report

/-! ### Sections -/

variable {plan : SectionPlan} {sources : List Source} {fetched : Except StoreError (List Row)}

/-- A section without an error has its rows. -/
theorem exists_of_error_eq_none (h : (tableSection plan sources fetched).error = none) :
    ∃ rows, fetched = .ok rows := by
  cases fetched with
  | ok rows => exact ⟨rows, rfl⟩
  | error e => cases h

/-- Totals of all networks are made from rows that were fetched. -/
theorem exists_of_value_networkTotals {fetched : Noted (Except StoreError (List Row))}
    {groups : List Row} (h : (networkTotals fetched).value = .ok groups) :
    ∃ rows, fetched.value = .ok rows ∧
      groups = totalsBy rows networkColumn daysColumn (TableKind.summable .network) := by
  unfold networkTotals at h
  rw [Noted.value_bind] at h
  cases hfetched : fetched.value with
  | error e =>
    rw [hfetched] at h
    cases h
  | ok rows =>
    rw [hfetched] at h
    cases h
    exact ⟨rows, rfl, rfl⟩

/-- The section with the requests of a network. -/
def requestsSection (store : ReportStore) (code : String) (date : Day) : Section :=
  tableSection (requestsPlan code) (knownSources store).value.list
    (store.fetchRows .network { monthFilter date with network := some code }
      [TableKind.dayColumn, Table.sourceColumn]).value

/-- The section with the totals of all networks. -/
def networksSection (store : ReportStore) (date : Day) : Section :=
  tableSection (networksPlan date) (knownSources store).value.list
    (networkTotals (store.fetchRows .network (monthFilter date) [networkColumn])).value

/-- The two sections of the page of a network. -/
theorem sections_network (store : ReportStore) (today : Day) (code : String) (date : Day)
    (updated : Option String) :
    (network store today code date updated).value.sections =
      [requestsSection store code date, networksSection store date] :=
  rfl

/-- If neither section has an error, both are made from rows that were fetched. -/
theorem exists_rows_network {db : Database} {date : Day} {code : String}
    (hrequests : (requestsSection db.reportStore code date).error = none)
    (hnetworks : (networksSection db.reportStore date).error = none) :
    ∃ sources own rows,
      (db.reportStore.fetchRows .network { monthFilter date with network := some code }
        [TableKind.dayColumn, Table.sourceColumn]).value = .ok own ∧
      (db.reportStore.fetchRows .network (monthFilter date) [networkColumn]).value = .ok rows ∧
      requestsSection db.reportStore code date =
        tableSection (requestsPlan code) sources (.ok own) ∧
      networksSection db.reportStore date =
        tableSection (networksPlan date) sources (.ok (totalsBy rows networkColumn daysColumn
          (TableKind.summable .network))) := by
  obtain ⟨own, hown⟩ := exists_of_error_eq_none hrequests
  obtain ⟨groups, hgroups⟩ := exists_of_error_eq_none hnetworks
  obtain ⟨rows, hrows, rfl⟩ := exists_of_value_networkTotals hgroups
  refine ⟨(knownSources db.reportStore).value.list, own, rows, hown, hrows, ?_, ?_⟩
  · unfold requestsSection
    rw [hown]
  · unfold networksSection
    rw [hgroups]

/-! ### Rows of the totals -/

/-- The row that is shown for a network among the totals. -/
def networkRow (sources : List Source) (rows : List Row) (code : String) : Row :=
  Table.shownRow sources TableKind.networksHeader
    (groupRow networkColumn daysColumn (NameSet.ofList (TableKind.summable .network)) code
      (groupMembers rows networkColumn code))

variable {rows : List Row} {code : String}

theorem get?_networkRow_code : (networkRow sources rows code).get? networkColumn =
    some (.text code) :=
  Table.get?_shownRow_of_get? (by decide) (by decide) (by decide)
    (get?_groupRow_key (by decide) (by decide))

theorem get?_networkRow_days : (networkRow sources rows code).get? daysColumn =
    some (.integer (groupMembers rows networkColumn code).length) :=
  Table.get?_shownRow_of_get? (by decide) (by decide) (by decide)
    (get?_groupRow_count (by decide))

theorem get?_networkRow_total {column : String} (h : column ∈ TableKind.summable .network) :
    (networkRow sources rows code).get? column =
      some (Total.ofCells (groupCells rows networkColumn column code)).toCell := by
  have hheader : ∀ c ∈ TableKind.summable .network,
      c ∈ TableKind.networksHeader ∧ c ≠ Table.sourceColumn := by decide
  exact Table.get?_shownRow_of_get? (by decide) (hheader column h).1 (hheader column h).2
    (get?_groupRow h)

/-- The rows of a network among the totals: one if it has a group, else none. -/
theorem filter_networkRow (sources : List Source) (rows : List Row) (code : String) :
    (((groupTexts rows networkColumn).map (networkRow sources rows)).filter fun row =>
        decide (row.get? networkColumn = some (.text code))) =
      if code ∈ groupTexts rows networkColumn then [networkRow sources rows code] else [] := by
  have hfun : ((fun row => decide (row.get? networkColumn = some (.text code))) ∘
      networkRow sources rows) = fun text => text == code := by
    funext text
    rw [Function.comp_apply, get?_networkRow_code, Bool.eq_iff_iff, decide_eq_true_iff, beq_iff_eq,
      Option.some.injEq, Cell.text.injEq]
  -- a group is told by its text, and no text stands for two groups
  rw [List.filter_map]
  rw [hfun, List.filter_beq, (nodup_groupTexts rows networkColumn).count]
  split
  · rfl
  · rfl

/-- The rows of the table with the totals of all networks. -/
theorem rows_networks (date : Day) (sources : List Source) (rows : List Row) :
    (tableSection (networksPlan date) sources (.ok (totalsBy rows networkColumn daysColumn
      (TableKind.summable .network)))).table.rows =
      (groupTexts rows networkColumn).map (networkRow sources rows) := by
  show (List.map _ (List.map _ _)) = _
  rw [List.map_map]
  rfl

/-- Requests have totals as soon as there are any. -/
theorem sums_requests (code : String) (sources : List Source) {own : List Row} (h : own ≠ []) :
    (tableSection (requestsPlan code) sources (.ok own)).table.sums =
      some (columnTotals own (NameSet.ofList (TableKind.summable .network))) := by
  have hsummable : (NameSet.ofList (TableKind.summable .network)).names ≠ [] := by decide
  exact Table.sums_assemble_eq_some_iff.mpr ⟨⟨h, hsummable⟩, rfl⟩

/-! ### Agreement -/

/-- The row of a network among the totals tells what the table of its requests tells. -/
theorem networkRow_agrees {own : List Row} (hperm : own.Perm (groupMembers rows networkColumn code))
    (hsized : ∀ column ∈ TableKind.summable .network, ∀ c ∈ columnCells own column, c.IsSized) :
    (networkRow sources rows code).get? daysColumn = some (.integer own.length) ∧
      ∀ column ∈ TableKind.summable .network, ∃ total,
        (columnTotals own (NameSet.ofList (TableKind.summable .network))).get? column = some total ∧
          (networkRow sources rows code).get? column = some total.toCell := by
  constructor
  · rw [get?_networkRow_days, hperm.length_eq]
  · intro column hcolumn
    refine ⟨_, get?_columnTotals own hcolumn, ?_⟩
    rw [get?_networkRow_total hcolumn]
    unfold groupCells
    rw [Total.ofCells_perm (columnCells_perm hperm column) (hsized column hcolumn)]

/-- Whether the table of a network's requests and the table of all networks agree: the network has a
    row among the totals if it has requests, and this row is the only one, counts the requests and
    has their totals. -/
def TablesAgree (code : String) (requests networks : Table) : Prop :=
  ((∃ row ∈ networks.rows, row.get? networkColumn = some (.text code)) ↔ requests.rows ≠ []) ∧
    ∀ row ∈ networks.rows, row.get? networkColumn = some (.text code) →
      (networks.rows.filter fun other =>
        decide (other.get? networkColumn = some (.text code))) = [row] ∧
      row.get? daysColumn = some (.integer requests.rows.length) ∧
      ∃ totals, requests.sums = some totals ∧
        ∀ column ∈ TableKind.summable .network, ∃ total,
          totals.get? column = some total ∧ row.get? column = some total.toCell

/-- A row with the code of a network can only be the row of its group. -/
theorem eq_networkRow_of_mem {row : Row}
    (hmem : row ∈ (groupTexts rows networkColumn).map (networkRow sources rows))
    (hget : row.get? networkColumn = some (.text code)) :
    code ∈ groupTexts rows networkColumn ∧ row = networkRow sources rows code := by
  obtain ⟨text, htext, rfl⟩ := List.mem_map.mp hmem
  rw [get?_networkRow_code] at hget
  cases hget
  exact ⟨htext, rfl⟩

/-- Tables made from the rows of a group and from all rows agree. -/
theorem tablesAgree_of_perm (date : Day) {own : List Row}
    (hperm : own.Perm (groupMembers rows networkColumn code))
    (hsized : ∀ column ∈ TableKind.summable .network, ∀ c ∈ columnCells own column, c.IsSized) :
    TablesAgree code (tableSection (requestsPlan code) sources (.ok own)).table
      (tableSection (networksPlan date) sources (.ok (totalsBy rows networkColumn daysColumn
        (TableKind.summable .network)))).table := by
  have hlength : (tableSection (requestsPlan code) sources (.ok own)).table.rows.length =
      own.length := List.length_map _
  have hgroup : code ∈ groupTexts rows networkColumn ↔ own ≠ [] := by
    rw [mem_groupTexts_iff_ne_nil, Ne, Ne, ← List.length_eq_zero_iff, ← List.length_eq_zero_iff,
      hperm.length_eq]
  have hempty : (tableSection (requestsPlan code) sources (.ok own)).table.rows ≠ [] ↔ own ≠ [] := by
    rw [Ne, Ne, ← List.length_eq_zero_iff, ← List.length_eq_zero_iff, hlength]
  unfold TablesAgree
  rw [rows_networks, hempty, hlength, ← hgroup]
  constructor
  · constructor
    · rintro ⟨row, hmem, hget⟩
      exact (eq_networkRow_of_mem hmem hget).1
    · intro hmem
      exact ⟨_, List.mem_map.mpr ⟨code, hmem, rfl⟩, get?_networkRow_code⟩
  · intro row hmem hget
    obtain ⟨hcode, rfl⟩ := eq_networkRow_of_mem hmem hget
    obtain ⟨hdays, htotals⟩ := networkRow_agrees hperm hsized
    refine ⟨?_, hdays, _, sums_requests code sources (hgroup.mp hcode), htotals⟩
    rw [filter_networkRow, if_pos hcode]

/-- On a network's page that has both tables, the two agree. -/
theorem tablesAgree_network {db : Database}
    (hnetwork : ∀ t, db.table? (TableKind.storeName .network) = some t → t.IsNetwork)
    (today date : Day) {code : String} (hcode : code ≠ "") (updated : Option String)
    {requests networks : Section}
    (hsections : (network db.reportStore today code date updated).value.sections =
      [requests, networks])
    (hrequests : requests.error = none) (hnetworks : networks.error = none) :
    TablesAgree code requests.table networks.table := by
  rw [sections_network] at hsections
  cases hsections
  obtain ⟨sources, own, rows, hown, hrows, hrequestsEq, hnetworksEq⟩ :=
    exists_rows_network hrequests hnetworks
  -- both queries read the same stored rows, and only the order of the rows differs
  obtain ⟨hperm, hsized⟩ := Database.requests_perm_groupMembers hnetwork rfl hcode hown hrows
  rw [hrequestsEq, hnetworksEq]
  exact tablesAgree_of_perm date hperm hsized

/-! ### A month of two networks -/

/-- Rows of two networks, and one without a code. -/
def sampleNetworks : StoredTable where
  shape := Schema.ofKind .network
  rows :=
    [[.ofText "2024-01-05", .integer 1, .ofText "CH", .integer 3, .integer 10, .null, .integer 0,
        .ofText "1.5 kiB", .null],
      [.ofText "2024-01-05", .integer 1, .ofText "GE", .integer 5, .integer 7, .integer 1,
        .integer 0, .ofText "20 kiB", .null],
      [.ofText "2024-01-06", .integer 2, .ofText "CH", .integer 2, .integer 4, .null, .integer 1,
        .integer 300, .null],
      [.ofText "2024-01-07", .integer 2, .null, .integer 1, .integer 1, .null, .null, .null, .null]]

theorem isNetwork_sampleNetworks : sampleNetworks.IsNetwork where
  distinct := by decide
  hasCode := by decide
  collation := by decide
  isConverted := StoredTable.isConverted_of_converted (by decide +kernel)
  codes := by
    have hcodes : ∀ row ∈ sampleNetworks.rows,
        sampleNetworks.shape.valueIn networkColumn row ∈ [.null, .ofText "CH", .ofText "GE"] := by
      decide +kernel
    intro row hrow
    have hcases := hcodes row hrow
    simp only [List.mem_cons, List.not_mem_nil, or_false] at hcases
    rcases hcases with h | h | h
    · exact Or.inl h
    · exact Or.inr ⟨_, h⟩
    · exact Or.inr ⟨_, h⟩
  sizes := by decide +kernel

/-- A store with these rows. -/
def sampleStore : Database := ⟨[sampleNetworks]⟩

/-- The page of a network with two requests, in a month with requests for another one. -/
theorem tablesAgree_sampleNetworks :
    (∀ t, sampleStore.table? (TableKind.storeName .network) = some t → t.IsNetwork) ∧
      ∃ requests networks,
        (network sampleStore.reportStore ⟨2024, 2, 1, by decide⟩ "CH" ⟨2024, 1, 5, by decide⟩
          none).value.sections = [requests, networks] ∧
        requests.error = none ∧ networks.error = none ∧ requests.table.rows.length = 2 ∧
        TablesAgree "CH" requests.table networks.table := by
  have htable : sampleStore.table? (TableKind.storeName .network) = some sampleNetworks := by
    rfl
  have hnetwork : ∀ t, sampleStore.table? (TableKind.storeName .network) = some t →
      t.IsNetwork := by
    intro t ht
    rw [htable] at ht
    cases ht
    exact isNetwork_sampleNetworks
  have hrequests : (requestsSection sampleStore.reportStore "CH"
      ⟨2024, 1, 5, by decide⟩).error = none := by decide +kernel
  have hnetworks : (networksSection sampleStore.reportStore ⟨2024, 1, 5, by decide⟩).error =
      none := by decide +kernel
  refine ⟨hnetwork, _, _, sections_network _ _ _ _ _, hrequests, hnetworks, ?_, ?_⟩
  · obtain ⟨sources, own, rows, hown, -, heq, -⟩ := exists_rows_network hrequests hnetworks
    obtain ⟨t, ht, hperm⟩ := Database.exists_of_value_fetchRows hown
    rw [htable] at ht
    cases ht
    rw [heq]
    show (List.map _ own).length = 2
    rw [List.length_map, hperm.length_eq]
    decide +kernel
  · exact tablesAgree_network hnetwork ⟨2024, 2, 1, by decide⟩ ⟨2024, 1, 5, by decide⟩ (by decide)
      none (sections_network _ _ _ _ _) hrequests hnetworks

/-! ### Codes that are compared otherwise than they are grouped -/

/-- A table of networks, each with a text as its code and with sizes in the columns with totals, for
    one of which the two tables of its page do not agree. -/
structure DisagreesOn (t : StoredTable) (code : String) : Prop where
  /-- Columns are told apart by their names. -/
  distinct : t.shape.HasDistinctNames
  /-- Every row is held as the columns prefer it. -/
  isConverted : t.IsConverted
  /-- Every code is a text. -/
  codes : ∀ row ∈ t.rows, (t.shape.valueIn networkColumn row).rank = 2
  /-- Totals are made of sizes. -/
  sizes : ∀ row ∈ t.rows, ∀ column ∈ TableKind.summable .network,
    (t.shape.valueIn column row).toCell.IsSized
  /-- The page has both tables, and they do not agree. -/
  not_agree : ∃ requests networks,
    (network (Database.mk [t]).reportStore ⟨2024, 2, 1, by decide⟩ code ⟨2024, 1, 5, by decide⟩
      none).value.sections = [requests, networks] ∧
    requests.error = none ∧ networks.error = none ∧
    ¬ TablesAgree code requests.table networks.table

/-- A row whose code is a text of bytes that write no characters. -/
def undecodableNetwork : StoredTable where
  shape := Schema.ofKind .network
  rows :=
    [[.ofText "2024-01-05", .integer 1, .text [0xFF], .integer 1, .integer 1, .integer 0,
      .integer 0, .ofText "1 kiB", .null]]

/-- The row is in the group of the character that stands for its bytes, but is not picked by it. -/
theorem disagreesOn_undecodableNetwork : DisagreesOn undecodableNetwork "\uFFFD" where
  distinct := by decide
  isConverted := StoredTable.isConverted_of_converted (by decide +kernel)
  codes := by decide +kernel
  sizes := by decide +kernel
  not_agree := by
    have hnone : (requestsSection (Database.mk [undecodableNetwork]).reportStore "\uFFFD"
        ⟨2024, 1, 5, by decide⟩).table.rows = [] := by decide +kernel
    have hrow : ∃ row ∈ (networksSection (Database.mk [undecodableNetwork]).reportStore
        ⟨2024, 1, 5, by decide⟩).table.rows,
        row.get? networkColumn = some (.text "\uFFFD") := by decide +kernel
    refine ⟨_, _, sections_network _ _ _ _ _, by decide +kernel, by decide +kernel, ?_⟩
    intro hagree
    exact hagree.1.mp hrow hnone

/-- A row with a code in small letters, in a column that makes no difference between cases. -/
def noCaseNetwork : StoredTable where
  shape := { Schema.ofKind .network with
    columns := (Schema.ofKind .network).columns.map fun c =>
      if c.name = networkColumn then { c with collation := .noCase } else c }
  rows :=
    [[.ofText "2024-01-05", .integer 1, .ofText "ge", .integer 1, .integer 1, .integer 0,
      .integer 0, .ofText "1 kiB", .null]]

/-- The row is picked by the code in capitals, but is in the group of the one in small letters. -/
theorem disagreesOn_noCaseNetwork : DisagreesOn noCaseNetwork "GE" where
  distinct := by decide
  isConverted := StoredTable.isConverted_of_converted (by decide +kernel)
  codes := by decide +kernel
  sizes := by decide +kernel
  not_agree := by
    have hsome : (requestsSection (Database.mk [noCaseNetwork]).reportStore "GE"
        ⟨2024, 1, 5, by decide⟩).table.rows ≠ [] := by decide +kernel
    have hnone : ¬∃ row ∈ (networksSection (Database.mk [noCaseNetwork]).reportStore
        ⟨2024, 1, 5, by decide⟩).table.rows,
        row.get? networkColumn = some (.text "GE") := by decide +kernel
    refine ⟨_, _, sections_network _ _ _ _ _, by decide +kernel, by decide +kernel, ?_⟩
    intro hagree
    exact hnone (hagree.1.mpr hsome)

/-- A code has to be a text of characters, and has to be compared byte by byte: if one of the two
    fails, the tables of a network's page need not agree. -/
theorem not_tablesAgree_undecodable_noCase :
    DisagreesOn undecodableNetwork "\uFFFD" ∧ DisagreesOn noCaseNetwork "GE" :=
  ⟨disagreesOn_undecodableNetwork, disagreesOn_noCaseNetwork⟩

end Report

end NodeReport

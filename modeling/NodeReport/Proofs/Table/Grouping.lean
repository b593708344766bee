import NodeReport.Proofs.ByteCount
import NodeReport.Proofs.Table.Total
import NodeReport.Table.Grouping

/-! # Totals of totals

  Grouping splits the rows, so totals of groups can be added up again. For counts this gives the
  total of all rows, also at the end of the range. A byte count passes through its text on the way:
  it loses up to one thousandth, and a group of at most 1024 bytes loses its unit.
-/

namespace NodeReport

/-! ### Groups -/

/-- Members with different keys lie in different parts, so the parts together are the members with
    one of the keys. -/
theorem flatMap_filter_perm {α : Type} (g : α → String) {keys : List String} (h : keys.Nodup)
    (as : List α) :
    (keys.flatMap fun k => as.filter fun a => g a == k).Perm
      (as.filter fun a => keys.contains (g a)) := by
  induction keys with
  | nil => simp
  | cons k keys ih =>
    obtain ⟨hnotMem, hnodup⟩ := List.nodup_cons.mp h
    rw [List.flatMap_cons]
    refine ((ih hnodup).append_left _).trans ?_
    -- cut the members with one of the keys in two: those of this key, and the others
    have hsplit := List.filter_append_perm (fun a => g a == k)
      (as.filter fun a => (k :: keys).contains (g a))
    rw [List.filter_filter, List.filter_filter] at hsplit
    have hfirst : ∀ a ∈ as, (g a == k && (k :: keys).contains (g a)) = (g a == k) := by
      intro a _
      by_cases heq : g a = k <;> simp [heq]
    have hrest : ∀ a ∈ as, (!(g a == k) && (k :: keys).contains (g a)) = keys.contains (g a) := by
      intro a _
      by_cases heq : g a = k <;> simp [heq, hnotMem]
    rw [List.filter_congr hfirst, List.filter_congr hrest] at hsplit
    exact hsplit

variable {rows : List Row} {key : String}

theorem mem_groupTexts {text : String} :
    text ∈ groupTexts rows key ↔ ∃ row ∈ rows, row.groupText key = text := by
  unfold groupTexts
  rw [NameSet.mem_names_ofList, List.mem_map]

theorem mem_groupTexts_iff_ne_nil {text : String} :
    text ∈ groupTexts rows key ↔ groupMembers rows key text ≠ [] := by
  rw [mem_groupTexts]
  unfold groupMembers
  constructor
  · rintro ⟨row, hrow, htext⟩
    exact List.ne_nil_of_mem (List.mem_filter.mpr ⟨hrow, by simpa using htext⟩)
  · intro hne
    obtain ⟨row, hrow⟩ := List.exists_mem_of_ne_nil _ hne
    obtain ⟨hmem, htext⟩ := List.mem_filter.mp hrow
    exact ⟨row, hmem, by simpa using htext⟩

theorem nodup_groupTexts (rows : List Row) (key : String) : (groupTexts rows key).Nodup :=
  Keyed.nodup_names _

/-- The groups together are the rows, in another order. -/
theorem flatMap_groupMembers_perm (rows : List Row) (key : String) :
    ((groupTexts rows key).flatMap (groupMembers rows key)).Perm rows := by
  have hperm := flatMap_filter_perm (Row.groupText key) (nodup_groupTexts rows key) rows
  have hall : (rows.filter fun row => (groupTexts rows key).contains (row.groupText key)) = rows := by
    rw [List.filter_eq_self]
    intro row hrow
    rw [List.contains_iff_mem]
    exact mem_groupTexts.mpr ⟨row, hrow, rfl⟩
  rw [hall] at hperm
  exact hperm

/-! ### Columns of groups -/

/-- The cells of a column in the rows of a group. -/
def groupCells (rows : List Row) (key column text : String) : List Cell :=
  columnCells (groupMembers rows key text) column

/-- The cells of a group are cells of the column. -/
theorem groupCells_subset (rows : List Row) (key column text : String) :
    groupCells rows key column text ⊆ columnCells rows column := by
  intro c hc
  obtain ⟨row, hrow, hget⟩ := List.mem_filterMap.mp hc
  exact List.mem_filterMap.mpr ⟨row, (List.mem_filter.mp hrow).1, hget⟩

/-- The bytes of all rows are those of the groups. -/
theorem byteSum_columnCells (rows : List Row) (key column : String) :
    byteSum (columnCells rows column) =
      ((groupTexts rows key).map fun text =>
        byteSum (groupCells rows key column text)).sum := by
  rw [← byteSum_perm (columnCells_perm (flatMap_groupMembers_perm rows key) column)]
  -- in the order of the groups the bytes are added up group by group
  induction groupTexts rows key with
  | nil => rfl
  | cons text texts ih =>
    rw [List.flatMap_cons, columnCells_append, List.map_cons, List.sum_cons, ← ih]
    unfold byteSum groupCells
    rw [List.map_append, List.sum_append_nat]

theorem byteSum_groupCells_le {text : String} (h : text ∈ groupTexts rows key)
    (column : String) :
    byteSum (groupCells rows key column text) ≤ byteSum (columnCells rows column) := by
  rw [byteSum_columnCells rows key column]
  exact List.le_sum_of_mem (List.mem_map.mpr ⟨text, h, rfl⟩)

/-- A text with a unit lies in one of the groups. -/
theorem any_hasByteUnit_columnCells (rows : List Row) (key column : String) :
    (columnCells rows column).any Cell.hasByteUnit = true ↔
      ∃ text ∈ groupTexts rows key,
        (groupCells rows key column text).any Cell.hasByteUnit = true := by
  constructor
  · intro h
    obtain ⟨cell, hcell, hunit⟩ := List.any_eq_true.mp h
    obtain ⟨row, hrow, hget⟩ := List.mem_filterMap.mp hcell
    refine ⟨row.groupText key, mem_groupTexts.mpr ⟨row, hrow, rfl⟩, ?_⟩
    have hmember : row ∈ groupMembers rows key (row.groupText key) :=
      List.mem_filter.mpr ⟨hrow, by simp⟩
    exact List.any_eq_true.mpr ⟨cell, List.mem_filterMap.mpr ⟨row, hmember, hget⟩, hunit⟩
  · rintro ⟨text, -, h⟩
    obtain ⟨cell, hcell, hunit⟩ := List.any_eq_true.mp h
    exact List.any_eq_true.mpr ⟨cell, groupCells_subset rows key column text hcell, hunit⟩

theorem get?_groupRow {countColumn text column : String} {columns : List String}
    {members : List Row} (h : column ∈ columns) :
    (groupRow key countColumn (NameSet.ofList columns) text members).get? column =
      some (Total.ofCells (columnCells members column)).toCell := by
  unfold groupRow
  simp only
  rw [Keyed.get?_insertAll, Keyed.get?_mapEntries, get?_columnTotals members h]
  rfl

/-- The row of a group names the group, unless a total stands in the place of the name. -/
theorem get?_groupRow_key {countColumn text : String} {columns : List String} {members : List Row}
    (hkey : key ∉ columns) (hcount : key ≠ countColumn) :
    (groupRow key countColumn (NameSet.ofList columns) text members).get? key =
      some (.text text) := by
  unfold groupRow
  simp only
  rw [Keyed.get?_insertAll, Keyed.get?_mapEntries, get?_columnTotals_of_not_mem members hkey,
    Keyed.get?_insert, if_neg hcount, Keyed.get?_insert, if_pos rfl]
  rfl

theorem get?_groupRow_count {countColumn text : String} {columns : List String}
    {members : List Row} (hcount : countColumn ∉ columns) :
    (groupRow key countColumn (NameSet.ofList columns) text members).get? countColumn =
      some (.integer members.length) := by
  unfold groupRow
  simp only
  rw [Keyed.get?_insertAll, Keyed.get?_mapEntries, get?_columnTotals_of_not_mem members hcount,
    Keyed.get?_insert, if_pos rfl]
  rfl

/-- In a column with totals the rows of the groups hold the totals of the groups. -/
theorem columnCells_totalsBy {countColumn column : String} {columns : List String}
    (h : column ∈ columns) :
    columnCells (totalsBy rows key countColumn columns) column =
      (groupTexts rows key).map fun text =>
        (Total.ofCells (groupCells rows key column text)).toCell := by
  unfold totalsBy
  induction groupTexts rows key with
  | nil => rfl
  | cons text texts ih =>
    have hget : (groupRow key countColumn (NameSet.ofList columns) text
        (groupMembers rows key text)).get? column = _ := get?_groupRow h
    rw [List.map_cons, List.map_cons, ← ih]
    exact List.filterMap_cons_some hget

/-! ### Losses of the texts of totals -/

/-- Bounds of parts are bounds of the sum. -/
theorem sum_within_thousandth {α : Type} {as : List α} {exact shown : α → Nat}
    (h : ∀ a ∈ as, 999 * exact a ≤ 1000 * shown a ∧ 1000 * shown a ≤ 1001 * exact a) :
    999 * (as.map exact).sum ≤ 1000 * (as.map shown).sum ∧
      1000 * (as.map shown).sum ≤ 1001 * (as.map exact).sum := by
  induction as with
  | nil => simp
  | cons a as ih =>
    have hhead := h a (by simp)
    have htail := ih fun b hb => h b (by simp [hb])
    simp only [List.map_cons, List.sum_cons]
    omega

/-- A byte count without a unit is a whole number. -/
theorem isWhole_formatBytes {n : Nat} (h : n ≤ 1024) : (Cell.text (formatBytes n)).IsWhole := by
  have hmax : n ≤ maxNat64 := by
    unfold maxNat64
    omega
  have hread : readInt64? (Text.trim (formatBytes n).toList) = some (n : Int) := by
    rw [toList_formatBytes_of_le h, trim_decimalDigits]
    apply readInt64?_decimalDigits
    unfold maxInt64
    omega
  obtain ⟨p, hparse, hexact, -, -⟩ := exists_parseBytes_formatBytes hmax
  constructor
  · unfold Cell.isFractional
    simp [hread]
  · unfold Cell.countValue Cell.byteCount parseBytesOrZero
    simp only [hread, hparse, hexact h]

/-- What the total of a group adds to the total of the groups. -/
theorem toCell_ofCells {cells : List Cell} (h : ∀ c ∈ cells, c.IsSized)
    (hsmall : byteSum cells < pow2 62) :
    (999 * byteSum cells ≤ 1000 * (Total.ofCells cells).toCell.byteCount ∧
        1000 * (Total.ofCells cells).toCell.byteCount ≤ 1001 * byteSum cells) ∧
      ((Total.ofCells cells).toCell.hasByteUnit = false → (Total.ofCells cells).toCell.IsWhole) := by
  have hpow : pow2 62 = 4611686018427387904 := rfl
  rw [Total.ofCells_of_isSized h]
  generalize byteSum cells = n at hsmall ⊢
  split
  · -- a byte count becomes a text
    have hmin : min maxNat64 n = n := by
      unfold maxNat64
      omega
    rw [hmin]
    obtain ⟨p, hparse, -, hlow, hhigh⟩ := exists_parseBytes_formatBytes
      (show n ≤ maxNat64 by omega)
    have hcount : (Total.toCell (.bytes n)).byteCount = p := by
      show parseBytesOrZero (formatBytes n) = p
      unfold parseBytesOrZero
      rw [hparse]
    rw [hcount]
    refine ⟨⟨hlow, hhigh⟩, ?_⟩
    intro hunit
    have hdecide : hasByteUnit (formatBytes n) = false := hunit
    rw [hasByteUnit_formatBytes, decide_eq_false_iff_not] at hdecide
    exact isWhole_formatBytes (by omega)
  · -- a count stays what it is
    have hmin : min maxInt64 (n : Int) = n := by
      unfold maxInt64
      omega
    rw [hmin]
    have hplain : (Total.toCell (.count n)).IsPlain := Int.natCast_nonneg n
    have hcount : (Total.toCell (.count n)).byteCount = n := Int.toNat_natCast n
    rw [hcount]
    exact ⟨⟨by omega, by omega⟩, fun _ => hplain.isWhole⟩

namespace Total

/-- Only the text of more than 1024 bytes has a unit. -/
theorem hasByteUnit_toCell_iff {t : Total} :
    t.toCell.hasByteUnit = true ↔ ∃ n, t = .bytes n ∧ 1024 < n := by
  cases t with
  | count n => simp [toCell, Cell.hasByteUnit]
  | real x => simp [toCell, Cell.hasByteUnit]
  | bytes n => simp [toCell, Cell.hasByteUnit, hasByteUnit_formatBytes]

end Total

/-! ### Totals of totals -/

section Totals

variable {countColumn column : String} {columns : List String}

/-- The rows of groups of counts hold counts, each cut off at the end of the range. -/
theorem columnCells_totalsBy_of_isPlain (hcolumn : column ∈ columns)
    (h : ∀ c ∈ columnCells rows column, c.IsPlain) :
    columnCells (totalsBy rows key countColumn columns) column =
      (groupTexts rows key).map fun text =>
        Cell.integer (min maxInt64 (byteSum (groupCells rows key column text))) := by
  rw [columnCells_totalsBy hcolumn]
  apply List.map_congr_left
  intro text _
  have hgroup : ∀ c ∈ groupCells rows key column text, c.IsPlain :=
    fun c hc => h c (groupCells_subset rows key column text hc)
  rw [Total.ofCells_of_isPlain hgroup]
  rfl

/-- Counts add up to the same total with or without groups, also at the end of the range. -/
theorem ofCells_totalsBy_of_isPlain (hcolumn : column ∈ columns)
    (h : ∀ c ∈ columnCells rows column, c.IsPlain) :
    Total.ofCells (columnCells (totalsBy rows key countColumn columns) column) =
      .count (min maxInt64 (byteSum (columnCells rows column))) := by
  rw [columnCells_totalsBy_of_isPlain hcolumn h, byteSum_columnCells rows key column]
  generalize groupTexts rows key = texts
  have hplain : ∀ c ∈ texts.map fun text =>
      Cell.integer (min maxInt64 (byteSum (groupCells rows key column text))), c.IsPlain := by
    intro c hc
    obtain ⟨text, -, rfl⟩ := List.mem_map.mp hc
    show 0 ≤ min maxInt64 _
    unfold maxInt64
    omega
  have hsum : byteSum (texts.map fun text =>
      Cell.integer (min maxInt64 (byteSum (groupCells rows key column text)))) =
        ((texts.map fun text => byteSum (groupCells rows key column text)).map
          (min maxInt64.toNat)).sum := by
    show (List.map _ (List.map _ _)).sum = _
    rw [List.map_map, List.map_map]
    congr 1
    apply List.map_congr_left
    intro text _
    show (min maxInt64 ((byteSum _ : Nat) : Int)).toNat = min maxInt64.toNat (byteSum _)
    generalize byteSum _ = n
    unfold maxInt64
    omega
  -- cutting off the groups is absorbed by cutting off their sum
  have hcut := min_sum_map_min maxInt64.toNat
    (texts.map fun text => byteSum (groupCells rows key column text))
  rw [← hsum] at hcut
  rw [Total.ofCells_of_isPlain hplain]
  congr 1
  unfold maxInt64 at hcut ⊢
  omega

/-- Sizes add up to the same total with or without groups, up to one thousandth. -/
theorem exists_ofCells_totalsBy (hcolumn : column ∈ columns)
    (h : ∀ c ∈ columnCells rows column, c.IsSized)
    (hsmall : byteSum (columnCells rows column) < pow2 62) :
    ∃ n : Nat,
      (Total.ofCells (columnCells (totalsBy rows key countColumn columns) column) = .count n ∨
        Total.ofCells (columnCells (totalsBy rows key countColumn columns) column) = .bytes n) ∧
      999 * byteSum (columnCells rows column) ≤ 1000 * n ∧
      1000 * n ≤ 1001 * byteSum (columnCells rows column) := by
  have hpow : pow2 62 = 4611686018427387904 := rfl
  have hgroup := fun text (htext : text ∈ groupTexts rows key) =>
    toCell_ofCells (fun c hc => h c (groupCells_subset rows key column text hc))
      (Nat.lt_of_le_of_lt (byteSum_groupCells_le htext column) hsmall)
  have hsum : byteSum (columnCells (totalsBy rows key countColumn columns) column) =
      ((groupTexts rows key).map fun text =>
        (Total.ofCells (groupCells rows key column text)).toCell.byteCount).sum := by
    unfold byteSum
    rw [columnCells_totalsBy hcolumn, List.map_map]
    rfl
  obtain ⟨hlow, hhigh⟩ := sum_within_thousandth fun text htext => (hgroup text htext).1
  rw [← byteSum_columnCells, ← hsum] at hlow hhigh
  by_cases hunit : (columnCells (totalsBy rows key countColumn columns) column).any
      Cell.hasByteUnit = true
  · -- some group keeps its unit; the sum stays clear of the end of the range
    refine ⟨_, Or.inr (Total.ofCells_of_hasByteUnit hunit), ?_⟩
    unfold maxNat64
    omega
  · -- no group keeps a unit, so all of them are added up as counts
    rw [Bool.not_eq_true] at hunit
    have hwhole : ∀ c ∈ columnCells (totalsBy rows key countColumn columns) column, c.IsWhole := by
      intro c hc
      have hnone : c.hasByteUnit = false := by simpa using List.any_eq_false.mp hunit c hc
      rw [columnCells_totalsBy hcolumn] at hc
      obtain ⟨text, htext, rfl⟩ := List.mem_map.mp hc
      exact (hgroup text htext).2 hnone
    refine ⟨byteSum (columnCells (totalsBy rows key countColumn columns) column), Or.inl ?_, hlow,
      hhigh⟩
    rw [Total.ofCells_of_isWhole hunit hwhole]
    congr 1
    unfold maxInt64
    omega

/-- Totals of totals are totals of the rows: exactly for counts, and up to one thousandth for sizes
    that stay clear of the end of the range. -/
theorem columnTotals_totalsBy (rows : List Row) (key countColumn : String) {columns : List String}
    {column : String} (hcolumn : column ∈ columns) :
    ((∀ c ∈ columnCells rows column, c.IsPlain) →
      (columnTotals rows (NameSet.ofList columns)).get? column =
          some (.count (min maxInt64 (byteSum (columnCells rows column)))) ∧
        (columnTotals (totalsBy rows key countColumn columns) (NameSet.ofList columns)).get? column =
          some (.count (min maxInt64 (byteSum (columnCells rows column))))) ∧
      ((∀ c ∈ columnCells rows column, c.IsSized) →
        byteSum (columnCells rows column) < pow2 62 →
        ∃ n : Nat,
          ((columnTotals (totalsBy rows key countColumn columns) (NameSet.ofList columns)).get?
                column = some (.count n) ∨
            (columnTotals (totalsBy rows key countColumn columns) (NameSet.ofList columns)).get?
                column = some (.bytes n)) ∧
          999 * byteSum (columnCells rows column) ≤ 1000 * n ∧
          1000 * n ≤ 1001 * byteSum (columnCells rows column)) := by
  rw [get?_columnTotals _ hcolumn, get?_columnTotals _ hcolumn]
  constructor
  · intro h
    rw [Total.ofCells_of_isPlain h, ofCells_totalsBy_of_isPlain hcolumn h]
    exact ⟨rfl, rfl⟩
  · intro h hsmall
    obtain ⟨n, hn, hlow, hhigh⟩ := exists_ofCells_totalsBy hcolumn h hsmall
    refine ⟨n, ?_, hlow, hhigh⟩
    rcases hn with hn | hn
    · exact Or.inl (congrArg some hn)
    · exact Or.inr (congrArg some hn)

/-- A row with a code and a size. -/
def sizeRow (code : String) (size : Cell) : Row :=
  Keyed.ofList [("networkCode", .text code), ("size", size)]

/-- Counts that go past the end of the range, and sizes of which one group has a unit. -/
theorem columnTotals_totalsBy_sizeRow :
    (columnTotals (totalsBy [sizeRow "CH" (.integer maxInt64), sizeRow "GE" (.integer 7)]
        "networkCode" "days" ["size"]) (NameSet.ofList ["size"])).get? "size" =
      some (.count maxInt64) ∧
    ∃ n : Nat,
      ((columnTotals (totalsBy [sizeRow "CH" (.text "1.234 MiB"), sizeRow "GE" (.integer 700),
          sizeRow "CH" (.integer 20), sizeRow "GE" .null] "networkCode" "days" ["size"])
          (NameSet.ofList ["size"])).get? "size" = some (.count n) ∨
        (columnTotals (totalsBy [sizeRow "CH" (.text "1.234 MiB"), sizeRow "GE" (.integer 700),
          sizeRow "CH" (.integer 20), sizeRow "GE" .null] "networkCode" "days" ["size"])
          (NameSet.ofList ["size"])).get? "size" = some (.bytes n)) ∧
      999 * 1294663 ≤ 1000 * n ∧ 1000 * n ≤ 1001 * 1294663 := by
  have hcounts := (columnTotals_totalsBy
    [sizeRow "CH" (.integer maxInt64), sizeRow "GE" (.integer 7)] "networkCode" "days"
    (show "size" ∈ ["size"] by decide)).1 (by decide)
  have hsizes := (columnTotals_totalsBy
    [sizeRow "CH" (.text "1.234 MiB"), sizeRow "GE" (.integer 700), sizeRow "CH" (.integer 20),
      sizeRow "GE" .null] "networkCode" "days" (show "size" ∈ ["size"] by decide)).2
    (by decide) (by decide)
  exact ⟨hcounts.2, hsizes⟩

/-- A total is a byte count if the total of some group is one. A total of totals is a byte count
    only if the total of some group exceeds 1024 bytes, where its text has a unit. -/
theorem bytes_columnTotals_totalsBy_iff (rows : List Row) (key countColumn : String)
    {columns : List String} {column : String} (hcolumn : column ∈ columns) :
    ((∃ n, (columnTotals rows (NameSet.ofList columns)).get? column = some (.bytes n)) ↔
        ∃ text ∈ groupTexts rows key, ∃ n,
          (columnTotals (groupMembers rows key text) (NameSet.ofList columns)).get? column =
            some (.bytes n)) ∧
      ((∃ n, (columnTotals (totalsBy rows key countColumn columns) (NameSet.ofList columns)).get?
            column = some (.bytes n)) ↔
        ∃ text ∈ groupTexts rows key, ∃ n, 1024 < n ∧
          (columnTotals (groupMembers rows key text) (NameSet.ofList columns)).get? column =
            some (.bytes n)) := by
  simp only [get?_columnTotals _ hcolumn, Option.some.injEq]
  constructor
  · simp only [Total.exists_ofCells_eq_bytes_iff]
    exact any_hasByteUnit_columnCells rows key column
  · rw [Total.exists_ofCells_eq_bytes_iff, columnCells_totalsBy hcolumn, List.any_map,
      List.any_eq_true]
    constructor
    · rintro ⟨text, htext, hunit⟩
      obtain ⟨n, htotal, hn⟩ := Total.hasByteUnit_toCell_iff.mp hunit
      exact ⟨text, htext, n, hn, htotal⟩
    · rintro ⟨text, htext, n, hn, htotal⟩
      exact ⟨text, htext, Total.hasByteUnit_toCell_iff.mpr ⟨n, htotal, hn⟩⟩

/-- Rows of two groups. -/
def pairOfSizes (first second : String) : List Row :=
  [sizeRow "CH" (.text first), sizeRow "GE" (.text second)]

/-- Of two groups one keeps its unit, and with it the total of totals. -/
theorem bytes_columnTotals_totalsBy_sizeRow :
    (∃ n, (columnTotals (totalsBy (pairOfSizes "1 kiB" "2 kiB") "networkCode" "days" ["size"])
        (NameSet.ofList ["size"])).get? "size" = some (.bytes n)) ∧
      ∃ text ∈ groupTexts (pairOfSizes "1 kiB" "2 kiB") "networkCode", ∃ n, 1024 < n ∧
        (columnTotals (groupMembers (pairOfSizes "1 kiB" "2 kiB") "networkCode" text)
          (NameSet.ofList ["size"])).get? "size" = some (.bytes n) := by
  have hgroup : ∃ text ∈ groupTexts (pairOfSizes "1 kiB" "2 kiB") "networkCode", ∃ n, 1024 < n ∧
      (columnTotals (groupMembers (pairOfSizes "1 kiB" "2 kiB") "networkCode" text)
        (NameSet.ofList ["size"])).get? "size" = some (.bytes n) :=
    ⟨"GE", by decide, 2048, by decide, by decide⟩
  have hiff := bytes_columnTotals_totalsBy_iff (pairOfSizes "1 kiB" "2 kiB") "networkCode" "days"
    (show "size" ∈ ["size"] by decide)
  exact ⟨hiff.2.mpr hgroup, hgroup⟩

/-- The unit of all rows together is lost if no group exceeds 1024 bytes. -/
theorem unit_lost_columnTotals_totalsBy :
    (columnTotals (pairOfSizes "1 kiB" "1 kiB") (NameSet.ofList ["size"])).get? "size" =
        some (.bytes 2048) ∧
      (columnTotals (totalsBy (pairOfSizes "1 kiB" "1 kiB") "networkCode" "days" ["size"])
        (NameSet.ofList ["size"])).get? "size" = some (.count 2048) := by
  constructor <;> decide

end Totals

end NodeReport

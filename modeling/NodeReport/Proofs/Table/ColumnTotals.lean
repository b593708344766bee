import NodeReport.Proofs.ByteCount.Grammar
import NodeReport.Proofs.Table.Total

/-! # What the total of a column is

  All cells of a column together decide what kind of total it has, before any of them is added. The
  total of bytes and the total of counts are sums, cut off at the ends of their ranges, so neither
  the order of the rows nor a row that has nothing to add makes a difference to them.

  * `hasByteUnit_iff`: the texts that make a total one of bytes;
  * `isTotalOf_ofCells`: the kind and the amount of a total;
  * `Cell.IsSilent.adds_nothing`: the cells that make no difference;
  * `agrees_ofCells`: the total of the same cells in another order, among silent ones;
  * `columnTotals_are_sums`: the totals of columns.
-/

namespace NodeReport

/-! ### Texts with units -/

/-- A text that ends like a byte unit, blanks behind it apart. -/
def EndsInUnit (s : String) : Prop :=
  ∃ front blanks, s.toList = front ++ ("iB".toList ++ blanks) ∧
    ∀ c ∈ blanks, Text.isBlank c = true

theorem hasByteUnit_iff {s : String} : hasByteUnit s = true ↔ EndsInUnit s := by
  unfold hasByteUnit EndsInUnit
  rw [Text.endsWith_iff]
  constructor
  · intro h
    obtain ⟨front, hfront⟩ := h
    obtain ⟨blanks, hblanks, hs⟩ := Text.exists_dropRightWhile_append Text.isBlank s.toList
    have htrim : Text.dropRightWhile Text.isBlank s.toList = front ++ "iB".toList := hfront
    rw [htrim, List.append_assoc] at hs
    exact ⟨front, blanks, hs, hblanks⟩
  · intro h
    obtain ⟨front, blanks, hs, hblanks⟩ := h
    refine ⟨front, ?_⟩
    have hlast : ∀ c, (front ++ "iB".toList).getLast? = some c → Text.isBlank c = false := by
      intro c hc
      have hletter : c = 'B' := by simpa using hc.symm
      rw [hletter]
      decide
    rw [hs, ← List.append_assoc]
    -- the blanks are dropped, and the last letter of the unit is none
    calc Text.trimEnd (front ++ "iB".toList ++ blanks)
        = Text.trimEnd (front ++ "iB".toList) := Text.dropRightWhile_append_of_all hblanks
      _ = front ++ "iB".toList := Text.trimEnd_eq_self hlast

/-- A text that ends in a unit when it is trimmed at both ends does so when it is trimmed behind. -/
theorem endsInUnit_of_trim {s : String} {front : List Char}
    (h : Text.trim s.toList = front ++ "iB".toList) : EndsInUnit s := by
  have hne : Text.trim s.toList ≠ [] := by
    rw [h]
    simp
  obtain ⟨before, hbefore⟩ := Text.exists_trimEnd_eq_append hne
  rw [← hasByteUnit_iff]
  unfold hasByteUnit
  rw [Text.endsWith_iff, hbefore, h]
  exact ⟨before ++ front, by rw [List.append_assoc]⟩

/-! ### Texts of numbers -/

/-- A text that is read as a number, blanks around it apart; the words for infinity and for no number
    are, too. -/
def IsNumberText (s : String) : Prop :=
  (∃ n, readInt64? (Text.trim s.toList) = some n) ∨
    ∃ x, readBinary64? (Text.trim s.toList) = some x

/-- What is neither a number nor ends in a unit counts no bytes. -/
theorem parseBytesOrZero_eq_zero {s : String} (hunit : ¬EndsInUnit s)
    (hnumber : ¬IsNumberText s) : parseBytesOrZero s = 0 := by
  have hends : ∀ front, Text.trim s.toList ≠ front ++ "iB".toList := by
    intro front hfront
    exact hunit (endsInUnit_of_trim hfront)
  have hnat : ∀ n, WritesNat (Text.trim s.toList) n → maxNat64 < n := by
    intro n hn
    obtain ⟨d, hd⟩ := DecimalNumber.exists_writes_of_writesNat hn
    exact absurd (.inr ⟨_, DecimalNumber.readBinary64?_of_writes hd⟩) hnumber
  have hvalue : ∀ q, ReadsAs (Text.trim s.toList) q → q < 0 := by
    intro q hq
    obtain ⟨x, hx, -⟩ := readsAs_iff.mp hq
    exact absurd (.inr ⟨x, hx⟩) hnumber
  -- no rule of the grammar gives a count, so the text is one that cannot be read
  unfold parseBytesOrZero
  rw [parseBytes_of_readsBytes (.plainInvalid hends hnat hvalue)]

/-! ### Cells that add nothing -/

/-- Nothing, a mark of presence, or a text that is neither a number nor ends in a unit. -/
inductive Cell.IsSilent : Cell → Prop
  | null : IsSilent .null
  | flag (present : Bool) : IsSilent (.flag present)
  | text {s : String} (hunit : ¬EndsInUnit s) (hnumber : ¬IsNumberText s) : IsSilent (.text s)

/-- A silent cell has no say in the kind of a total and adds nothing to it. -/
theorem Cell.IsSilent.adds_nothing {c : Cell} (h : c.IsSilent) :
    (c.hasByteUnit = false ∧ c.isFractional = false) ∧ c.byteCount = 0 ∧ c.countValue = 0 := by
  cases h with
  | null => exact ⟨⟨rfl, rfl⟩, rfl, rfl⟩
  | flag present => exact ⟨⟨rfl, rfl⟩, rfl, rfl⟩
  | text hunit hnumber =>
    rename_i s
    -- neither of the readers of numbers gives one
    have hint : readInt64? (Text.trim s.toList) = none := by
      rw [Option.eq_none_iff_forall_ne_some]
      intro n hn
      exact hnumber (.inl ⟨n, hn⟩)
    have hreal : readBinary64? (Text.trim s.toList) = none := by
      rw [Option.eq_none_iff_forall_ne_some]
      intro x hx
      exact hnumber (.inr ⟨x, hx⟩)
    refine ⟨⟨?_, ?_⟩, parseBytesOrZero_eq_zero hunit hnumber, ?_⟩
    · show NodeReport.hasByteUnit s = false
      rw [Bool.eq_false_iff]
      intro hends
      exact hunit (hasByteUnit_iff.mp hends)
    · simp [isFractional, hreal]
    · simp [countValue, hint, hreal]

/-- A row whose cell in a column is missing or silent. -/
def Row.IsSilentIn (column : String) (row : Row) : Prop :=
  ∀ c, row.get? column = some c → c.IsSilent

/-! ### The kind of a total -/

/-- What a total is a total of. -/
inductive Total.Kind where
  | count
  | real
  | bytes
deriving DecidableEq

/-- The kind of a total. -/
def Total.kind : Total → Kind
  | .count _ => .count
  | .real _ => .real
  | .bytes _ => .bytes

/-- The counts of a column's cells, added up without an end of the range. -/
def countSum (cells : List Cell) : Int :=
  (cells.map Cell.countValue).sum

namespace Total

variable {cells : List Cell}

theorem kind_ofCells (cells : List Cell) :
    (ofCells cells).kind =
      if cells.any Cell.hasByteUnit then .bytes
      else if cells.any Cell.isFractional then .real else .count := by
  unfold ofCells
  split
  · rfl
  · split <;> rfl

theorem any_hasByteUnit_iff :
    cells.any Cell.hasByteUnit = true ↔ ∃ s, .text s ∈ cells ∧ EndsInUnit s := by
  rw [List.any_eq_true]
  constructor
  · intro h
    obtain ⟨c, hc, hunit⟩ := h
    -- of all cells only texts have units
    cases c with
    | text s => exact ⟨s, hc, hasByteUnit_iff.mp hunit⟩
    | null => cases hunit
    | integer n => cases hunit
    | real x => cases hunit
    | flag present => cases hunit
  · intro h
    obtain ⟨s, hs, hunit⟩ := h
    exact ⟨.text s, hs, hasByteUnit_iff.mpr hunit⟩

theorem kind_ofCells_eq_bytes_iff :
    (ofCells cells).kind = .bytes ↔ ∃ s, .text s ∈ cells ∧ EndsInUnit s := by
  rw [← any_hasByteUnit_iff, kind_ofCells]
  split
  · simp [*]
  · split <;> simp [*]

theorem kind_ofCells_eq_real_iff :
    (ofCells cells).kind = .real ↔
      (¬∃ s, .text s ∈ cells ∧ EndsInUnit s) ∧ ∃ c ∈ cells, c.isFractional = true := by
  rw [← any_hasByteUnit_iff, ← List.any_eq_true, kind_ofCells]
  split
  · simp [*]
  · split <;> simp [*]

/-! ### The amount of a total -/

theorem ofCells_of_kind_bytes (h : (ofCells cells).kind = .bytes) :
    ofCells cells = .bytes (min maxNat64 (byteSum cells)) :=
  ofCells_of_hasByteUnit (any_hasByteUnit_iff.mpr (kind_ofCells_eq_bytes_iff.mp h))

theorem ofCells_of_kind_count (h : (ofCells cells).kind = .count) :
    ofCells cells = .count ((cells.map Cell.countValue).foldl addCount 0) := by
  -- the branches before the last one give totals of other kinds
  unfold ofCells at h ⊢
  split at h
  · cases h
  · split at h
    · cases h
    · simp [*]

/-- Counts of which none is negative are added up to the end of their range. -/
theorem ofCells_of_nonneg (h : (ofCells cells).kind = .count)
    (hnonneg : ∀ c ∈ cells, 0 ≤ c.countValue) :
    ofCells cells = .count (min maxInt64 (countSum cells)) := by
  have hcounts : ∀ n ∈ cells.map Cell.countValue, 0 ≤ n := by
    intro n hn
    obtain ⟨c, hc, rfl⟩ := List.mem_map.mp hn
    exact hnonneg c hc
  rw [ofCells_of_kind_count h, foldl_addCount_of_nonneg (Int.le_refl 0) (by decide) hcounts,
    Int.zero_add]
  rfl

/-- Counts of which no running sum leaves their range are added up exactly. -/
theorem ofCells_of_take (h : (ofCells cells).kind = .count)
    (hrange : ∀ k, minInt64 ≤ countSum (cells.take k) ∧ countSum (cells.take k) ≤ maxInt64) :
    ofCells cells = .count (countSum cells) := by
  rw [ofCells_of_kind_count h, foldl_addCount_of_take, Int.zero_add]
  · rfl
  · intro k
    rw [Int.zero_add, ← List.map_take]
    exact hrange k

/-- What the total of a column's cells is. -/
structure IsTotalOf (t : Total) (cells : List Cell) : Prop where
  /-- It is one of bytes if some text ends in a unit. -/
  bytes_iff : t.kind = .bytes ↔ ∃ s, .text s ∈ cells ∧ EndsInUnit s
  /-- Else it is one of numbers with fractions if some cell has a fraction. -/
  real_iff : t.kind = .real ↔
    (¬∃ s, .text s ∈ cells ∧ EndsInUnit s) ∧ ∃ c ∈ cells, c.isFractional = true
  /-- Bytes are added up to the end of their range. -/
  bytes : t.kind = .bytes → t = .bytes (min maxNat64 (byteSum cells))
  /-- Counts are added up to the end of their range if none of them is negative. -/
  count_of_nonneg : t.kind = .count → (∀ c ∈ cells, 0 ≤ c.countValue) →
    t = .count (min maxInt64 (countSum cells))
  /-- Counts are added up exactly if no running sum leaves their range. -/
  count_of_take : t.kind = .count →
    (∀ k, minInt64 ≤ countSum (cells.take k) ∧ countSum (cells.take k) ≤ maxInt64) →
    t = .count (countSum cells)

theorem isTotalOf_ofCells (cells : List Cell) : (ofCells cells).IsTotalOf cells where
  bytes_iff := kind_ofCells_eq_bytes_iff
  real_iff := kind_ofCells_eq_real_iff
  bytes := ofCells_of_kind_bytes
  count_of_nonneg := ofCells_of_nonneg
  count_of_take := ofCells_of_take

/-! ### Other orders, and silent cells among the others -/

/-- What a total has in common with one of the same cells. Counts that are negative may be cut off in
    one order and not in another, and numbers with fractions are rounded as they come. -/
structure Agrees (t : Total) (cells : List Cell) (other : Total) : Prop where
  /-- The kind is the same. -/
  kind : other.kind = t.kind
  /-- Bytes are the same. -/
  bytes : t.kind = .bytes → other = t
  /-- Counts are the same if none of them is negative. -/
  count : t.kind = .count → (∀ c ∈ cells, 0 ≤ c.countValue) → other = t

variable {silent others : List Cell}

/-- Cells without a property do not matter to whether any cell has it. -/
theorem any_append_silent {p : Cell → Bool} (h : ∀ c ∈ silent, p c = false)
    (hperm : others.Perm (cells ++ silent)) : others.any p = cells.any p := by
  have hsilent : silent.any p = false := by
    rw [List.any_eq_false]
    intro c hc
    rw [h c hc]
    decide
  rw [hperm.any_eq, List.any_append, hsilent, Bool.or_false]

/-- Cells that add zero do not matter to a sum. -/
theorem sum_append_silent {α : Type} [AddCommMonoid α] {f : Cell → α}
    (h : ∀ c ∈ silent, f c = 0) (hperm : others.Perm (cells ++ silent)) :
    (others.map f).sum = (cells.map f).sum := by
  have hsilent : (silent.map f).sum = 0 := by
    apply List.sum_eq_zero
    intro a ha
    obtain ⟨c, hc, rfl⟩ := List.mem_map.mp ha
    exact h c hc
  rw [(hperm.map f).sum_eq, List.map_append, List.sum_append, hsilent, add_zero]

/-- The cells in any other order, and silent ones anywhere among them, have a total that agrees. -/
theorem agrees_ofCells (h : ∀ c ∈ silent, c.IsSilent) (hperm : others.Perm (cells ++ silent)) :
    (ofCells cells).Agrees cells (ofCells others) := by
  -- all that a total is made from is the same for both
  have hunit := any_append_silent (fun c hc => (h c hc).adds_nothing.1.1) hperm
  have hfraction := any_append_silent (fun c hc => (h c hc).adds_nothing.1.2) hperm
  have hbytes : byteSum others = byteSum cells :=
    sum_append_silent (fun c hc => (h c hc).adds_nothing.2.1) hperm
  have hcounts : countSum others = countSum cells :=
    sum_append_silent (fun c hc => (h c hc).adds_nothing.2.2) hperm
  have hkind : (ofCells others).kind = (ofCells cells).kind := by
    rw [kind_ofCells, kind_ofCells, hunit, hfraction]
  refine ⟨hkind, ?_, ?_⟩
  · intro hcells
    rw [ofCells_of_kind_bytes hcells, ofCells_of_kind_bytes (hkind.trans hcells), hbytes]
  · intro hcells hnonneg
    have hothers : ∀ c ∈ others, 0 ≤ c.countValue := by
      intro c hc
      -- a cell among the others is one of these or silent
      rcases List.mem_append.mp (hperm.mem_iff.mp hc) with hcell | hsilent
      · exact hnonneg c hcell
      · exact Int.le_of_eq (h c hsilent).adds_nothing.2.2.symm
    rw [ofCells_of_nonneg hcells hnonneg, ofCells_of_nonneg (hkind.trans hcells) hothers, hcounts]

end Total

/-! ### The totals of columns -/

theorem columnCells_of_perm {rows others silent : List Row} {column : String}
    (hperm : others.Perm (rows ++ silent)) :
    (columnCells others column).Perm (columnCells rows column ++ columnCells silent column) := by
  rw [← columnCells_append]
  exact columnCells_perm hperm column

/-- Every column that is asked for has one total, and no other column has one. It is one of bytes if
    some text of the column ends in a unit; bytes, and counts that are not negative, are added up to
    the end of their range, and counts whose running sums stay in it are added up exactly. Neither the
    order of the rows nor rows without anything to add make a difference to its kind, to bytes, or to
    counts that are not negative. -/
theorem columnTotals_are_sums (rows : List Row) (columns : NameSet) :
    (columnTotals rows columns).names = columns.names ∧
      ∀ column ∈ columns.names, ∃ t, (columnTotals rows columns).get? column = some t ∧
        t.IsTotalOf (columnCells rows column) ∧
        ∀ others silent : List Row, others.Perm (rows ++ silent) →
          (∀ row ∈ silent, row.IsSilentIn column) →
          ∃ other, (columnTotals others columns).get? column = some other ∧
            t.Agrees (columnCells rows column) other := by
  refine ⟨Keyed.names_mapEntries _ _, ?_⟩
  intro column hcolumn
  have htotal : ∀ rows : List Row, (columnTotals rows columns).get? column =
      some (Total.ofCells (columnCells rows column)) := by
    intro rows
    have h := get?_columnTotals rows hcolumn
    rwa [NameSet.ofList_names] at h
  refine ⟨_, htotal rows, Total.isTotalOf_ofCells _, ?_⟩
  intro others silent hperm hsilent
  refine ⟨_, htotal others, Total.agrees_ofCells ?_ (columnCells_of_perm hperm)⟩
  -- a silent row has a silent cell in the column, or none
  intro c hc
  obtain ⟨row, hrow, hget⟩ := List.mem_filterMap.mp hc
  exact hsilent row hrow c hget

/-- A row with a size, a number of requests and a number of lines. -/
def countedRow (size requests lines : Cell) : Row :=
  Keyed.ofList [("size", size), ("requests", requests), ("lines", lines)]

/-- The columns of such a row. -/
def countedColumns : NameSet :=
  NameSet.ofList ["size", "requests", "lines"]

/-- One size has a unit, the requests go past the end of the range, and the lines go down. -/
def countedRows : List Row :=
  [countedRow (.integer 512) (.integer maxInt64) (.integer 5),
    countedRow (.text "1.5 kiB ") (.integer 7) (.integer (-3))]

/-- Rows without anything to add. -/
def silentRows : List Row :=
  [countedRow (.text "n/a") .null (.flag true), Keyed.empty]

theorem isSilentIn_of_mem_silentRows {row : Row} (h : row ∈ silentRows) :
    row.IsSilentIn "size" ∧ row.IsSilentIn "requests" := by
  have hword : (Cell.text "n/a").IsSilent := by
    have hint : readInt64? (Text.trim "n/a".toList) = none := by decide
    have hreal : readBinary64? (Text.trim "n/a".toList) = none := by decide
    refine .text ?_ ?_
    · rw [← hasByteUnit_iff]
      decide
    · unfold IsNumberText
      rw [hint, hreal]
      simp
  have hrow : row = countedRow (.text "n/a") .null (.flag true) ∨ row = Keyed.empty := by
    simpa [silentRows] using h
  rcases hrow with rfl | rfl
  · constructor
    · intro c hc
      cases hc
      exact hword
    · intro c hc
      cases hc
      exact .null
  · constructor
    · intro c hc
      cases hc
    · intro c hc
      cases hc

/-- The rows with something to add in another order, among the others. -/
def shuffledRows : List Row :=
  [Keyed.empty, countedRow (.text "1.5 kiB ") (.integer 7) (.integer (-3)),
    countedRow (.text "n/a") .null (.flag true),
    countedRow (.integer 512) (.integer maxInt64) (.integer 5)]

theorem columnTotals_are_sums_countedRows :
    shuffledRows.Perm (countedRows ++ silentRows) ∧
      (∀ row ∈ silentRows, row.IsSilentIn "size" ∧ row.IsSilentIn "requests") ∧
      (columnTotals shuffledRows countedColumns).get? "size" = some (.bytes 2048) ∧
      (columnTotals shuffledRows countedColumns).get? "requests" = some (.count maxInt64) ∧
      (columnTotals countedRows countedColumns).get? "lines" = some (.count 2) := by
  have hperm : shuffledRows.Perm (countedRows ++ silentRows) := by decide
  have hsilent : ∀ row ∈ silentRows, row.IsSilentIn "size" ∧ row.IsSilentIn "requests" :=
    fun _ => isSilentIn_of_mem_silentRows
  obtain ⟨-, htotals⟩ := columnTotals_are_sums countedRows countedColumns
  obtain ⟨size, hsize, hsizeIs, hsizes⟩ := htotals "size" (by decide)
  obtain ⟨requests, hrequests, hrequestsIs, hcounts⟩ := htotals "requests" (by decide)
  obtain ⟨size', hsize', hagree⟩ := hsizes _ _ hperm fun row hrow => (hsilent row hrow).1
  obtain ⟨requests', hrequests', hagree'⟩ := hcounts _ _ hperm fun row hrow => (hsilent row hrow).2
  refine ⟨hperm, hsilent, ?_, ?_, ?_⟩
  · have hkind : size.kind = .bytes :=
      hsizeIs.bytes_iff.mpr ⟨"1.5 kiB ", by decide, hasByteUnit_iff.mp (by decide)⟩
    rw [hsize', hagree.bytes hkind, hsizeIs.bytes hkind]
    decide
  · have hkind : requests.kind = .count := by
      rw [show requests = .count maxInt64 from (Option.some.inj hrequests).symm]
      rfl
    rw [hrequests', hagree'.count hkind (by decide), hrequestsIs.count_of_nonneg hkind (by decide)]
    decide
  · obtain ⟨lines, hlines, hlinesIs, -⟩ := htotals "lines" (by decide)
    have hkind : lines.kind = .count := by
      rw [show lines = .count 2 from (Option.some.inj hlines).symm]
      rfl
    have hcells : columnCells countedRows "lines" = [.integer 5, .integer (-3)] := by decide
    rw [hlines, hlinesIs.count_of_take hkind, hcells]
    · decide
    · rw [hcells]
      intro k
      match k with
      | 0 => decide
      | 1 => decide
      | k + 2 =>
        rw [List.take_of_length_le (by simp)]
        decide

end NodeReport

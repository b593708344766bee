import Mathlib.Algebra.GroupWithZero.Nat
import Mathlib.Algebra.Order.BigOperators.Group.List
import Mathlib.Algebra.Ring.Int.Defs
import Mathlib.Data.Nat.Cast.Basic
import NodeReport.Proofs.Keyed
import NodeReport.Proofs.Number.Reading
import NodeReport.Table.Total

/-! # Totals as sums

  A total that stops at the end of its range is the sum, cut off once. So for cells that are not
  negative the order of the rows does not matter.
-/

namespace NodeReport

/-! ### Sums that stop -/

theorem foldl_addBytes {a : Nat} (ha : a ≤ maxNat64) (ns : List Nat) :
    ns.foldl addBytes a = min maxNat64 (a + ns.sum) := by
  induction ns generalizing a with
  | nil =>
    simp only [List.foldl_nil, List.sum_nil]
    omega
  | cons n ns ih =>
    have hstep : addBytes a n ≤ maxNat64 := Nat.min_le_left ..
    rw [List.foldl_cons, ih hstep, List.sum_cons]
    unfold addBytes
    omega

/-- Counts that are not negative never meet the lower end of the range. -/
theorem foldl_addCount_of_nonneg {a : Int} (ha : 0 ≤ a) (hmax : a ≤ maxInt64) {ns : List Int}
    (h : ∀ n ∈ ns, 0 ≤ n) : ns.foldl addCount a = min maxInt64 (a + ns.sum) := by
  induction ns generalizing a with
  | nil =>
    simp only [List.foldl_nil, List.sum_nil]
    omega
  | cons n ns ih =>
    have hn := h n (by simp)
    have hrest : ∀ m ∈ ns, 0 ≤ m := fun m hm => h m (by simp [hm])
    have hsum := List.sum_nonneg hrest
    have hstep : addCount a n = min maxInt64 (a + n) := by
      unfold addCount minInt64 maxInt64
      omega
    have hlow : 0 ≤ min maxInt64 (a + n) := by
      unfold maxInt64
      omega
    -- the total so far is cut off already, which the later cut makes up for
    rw [List.foldl_cons, hstep, ih hlow (Int.min_le_left ..) hrest, List.sum_cons]
    omega

/-- As long as no running sum leaves the range, nothing is cut off. -/
theorem foldl_addCount_of_take {a : Int} {ns : List Int}
    (h : ∀ k, minInt64 ≤ a + (ns.take k).sum ∧ a + (ns.take k).sum ≤ maxInt64) :
    ns.foldl addCount a = a + ns.sum := by
  induction ns generalizing a with
  | nil => simp
  | cons n ns ih =>
    have hone := h 1
    have hstep : addCount a n = a + n := by
      simp only [List.take_succ_cons, List.take_zero, List.sum_cons, List.sum_nil] at hone
      unfold addCount
      omega
    rw [List.foldl_cons, hstep, ih, List.sum_cons]
    · omega
    · -- a running sum of the rest is one of the whole list
      intro k
      have hk := h (k + 1)
      rw [List.take_succ_cons, List.sum_cons] at hk
      omega

/-- Cutting off before adding up makes no difference to a sum that is cut off. -/
theorem min_sum_map_min (limit : Nat) (ns : List Nat) :
    min limit (ns.map (min limit)).sum = min limit ns.sum := by
  induction ns with
  | nil => rfl
  | cons n ns ih =>
    rw [List.map_cons, List.sum_cons, List.sum_cons]
    omega

/-! ### Kinds of cells -/

namespace Cell

/-- Nothing, or an integer that is not negative. -/
def IsPlain : Cell → Prop
  | .null => True
  | .integer n => 0 ≤ n
  | _ => False

instance : DecidablePred IsPlain
  | .null => inferInstanceAs (Decidable True)
  | .integer n => inferInstanceAs (Decidable (0 ≤ n))
  | .real _ => inferInstanceAs (Decidable False)
  | .text _ => inferInstanceAs (Decidable False)
  | .flag _ => inferInstanceAs (Decidable False)

/-- A cell that adds the same natural number to a count as to a byte count. -/
structure IsWhole (c : Cell) : Prop where
  /-- It has no fraction. -/
  notFractional : c.isFractional = false
  /-- It counts what it counts in bytes. -/
  countValue : c.countValue = c.byteCount

theorem IsPlain.isWhole {c : Cell} (h : c.IsPlain) : c.IsWhole := by
  cases c with
  | null => exact ⟨rfl, rfl⟩
  | integer n =>
    have hn : 0 ≤ n := h
    refine ⟨rfl, ?_⟩
    show n = n.toNat
    omega
  | real x => exact h.elim
  | text s => exact h.elim
  | flag present => exact h.elim

theorem IsPlain.hasByteUnit {c : Cell} (h : c.IsPlain) : c.hasByteUnit = false := by
  cases c with
  | null => rfl
  | integer n => rfl
  | real x => exact h.elim
  | text s => exact h.elim
  | flag present => exact h.elim

/-- Nothing, an integer that is not negative, or a text with a byte unit. -/
def IsSized (c : Cell) : Prop :=
  c.IsPlain ∨ c.hasByteUnit = true

instance : DecidablePred IsSized := fun c => inferInstanceAs (Decidable (c.IsPlain ∨ _))

theorem IsSized.isWhole {c : Cell} (h : c.IsSized) (hunit : c.hasByteUnit = false) : c.IsWhole := by
  rcases h with h | h
  · exact h.isWhole
  · rw [hunit] at h
    cases h

end Cell

/-! ### Totals of cells -/

/-- The bytes of a column's cells, without an upper end. -/
def byteSum (cells : List Cell) : Nat :=
  (cells.map Cell.byteCount).sum

theorem byteSum_perm {cells others : List Cell} (h : cells.Perm others) :
    byteSum cells = byteSum others :=
  (h.map Cell.byteCount).sum_nat

namespace Total

/-- A total is a byte count if some text has a unit. -/
theorem ofCells_of_hasByteUnit {cells : List Cell} (h : cells.any Cell.hasByteUnit = true) :
    ofCells cells = .bytes (min maxNat64 (byteSum cells)) := by
  unfold ofCells
  rw [if_pos h, foldl_addBytes (Nat.zero_le _), Nat.zero_add]
  rfl

/-- Only a text with a unit makes a byte count. -/
theorem exists_ofCells_eq_bytes_iff {cells : List Cell} :
    (∃ n, ofCells cells = .bytes n) ↔ cells.any Cell.hasByteUnit = true := by
  constructor
  · rintro ⟨n, h⟩
    unfold ofCells at h
    split at h
    · assumption
    · split at h <;> cases h
  · intro h
    exact ⟨_, ofCells_of_hasByteUnit h⟩

theorem ofCells_of_isWhole {cells : List Cell} (hunit : cells.any Cell.hasByteUnit = false)
    (hwhole : ∀ c ∈ cells, c.IsWhole) :
    ofCells cells = .count (min maxInt64 (byteSum cells)) := by
  have hfraction : cells.any Cell.isFractional = false := by
    rw [List.any_eq_false]
    intro c hc
    rw [(hwhole c hc).notFractional]
    decide
  have hcounts : cells.map Cell.countValue = (cells.map Cell.byteCount).map fun n : Nat => (n : Int) := by
    rw [List.map_map]
    exact List.map_congr_left fun c hc => (hwhole c hc).countValue
  have hsum : (cells.map Cell.countValue).sum = byteSum cells := by
    rw [hcounts]
    exact (map_list_sum (Nat.castAddMonoidHom Int) _).symm
  have hnonneg : ∀ n ∈ cells.map Cell.countValue, 0 ≤ n := by
    rw [hcounts]
    intro n hn
    obtain ⟨m, -, rfl⟩ := List.mem_map.mp hn
    exact Int.natCast_nonneg m
  unfold ofCells
  rw [hunit, hfraction]
  simp only [Bool.false_eq_true, if_false]
  rw [foldl_addCount_of_nonneg (Int.le_refl 0) (by decide) hnonneg, hsum, Int.zero_add]

theorem ofCells_of_isPlain {cells : List Cell} (h : ∀ c ∈ cells, c.IsPlain) :
    ofCells cells = .count (min maxInt64 (byteSum cells)) := by
  refine ofCells_of_isWhole ?_ fun c hc => (h c hc).isWhole
  rw [List.any_eq_false]
  intro c hc
  rw [(h c hc).hasByteUnit]
  decide

/-- The total of cells with sizes: a byte count or a count, as the cells say, of the same sum. -/
theorem ofCells_of_isSized {cells : List Cell} (h : ∀ c ∈ cells, c.IsSized) :
    ofCells cells =
      if cells.any Cell.hasByteUnit then .bytes (min maxNat64 (byteSum cells))
      else .count (min maxInt64 (byteSum cells)) := by
  split
  · rename_i hunit
    exact ofCells_of_hasByteUnit hunit
  · rename_i hunit
    have hnone : ∀ c ∈ cells, c.hasByteUnit = false := by simpa using hunit
    exact ofCells_of_isWhole (by simpa using hunit) fun c hc => (h c hc).isWhole (hnone c hc)

/-- Sizes are added up to the same total in every order. -/
theorem ofCells_perm {cells others : List Cell} (hperm : cells.Perm others)
    (h : ∀ c ∈ cells, c.IsSized) : ofCells cells = ofCells others := by
  have hothers : ∀ c ∈ others, c.IsSized := fun c hc => h c (hperm.mem_iff.mpr hc)
  rw [ofCells_of_isSized h, ofCells_of_isSized hothers, byteSum_perm hperm, hperm.any_eq]

end Total

/-! ### Totals of columns -/

theorem columnCells_append (rows others : List Row) (column : String) :
    columnCells (rows ++ others) column = columnCells rows column ++ columnCells others column :=
  List.filterMap_append

theorem columnCells_perm {rows others : List Row} (h : rows.Perm others) (column : String) :
    (columnCells rows column).Perm (columnCells others column) :=
  h.filterMap _

theorem get?_columnTotals (rows : List Row) {columns : List String} {column : String}
    (h : column ∈ columns) :
    (columnTotals rows (NameSet.ofList columns)).get? column =
      some (Total.ofCells (columnCells rows column)) := by
  unfold columnTotals
  rw [Keyed.get?_mapEntries, NameSet.get?_ofList_of_mem h]
  rfl

theorem get?_columnTotals_of_not_mem (rows : List Row) {columns : List String} {column : String}
    (h : column ∉ columns) :
    (columnTotals rows (NameSet.ofList columns)).get? column = none := by
  unfold columnTotals
  rw [Keyed.get?_mapEntries]
  cases hget : (NameSet.ofList columns).get? column with
  | none => rfl
  | some value =>
    exact absurd (NameSet.mem_names_ofList.mp (Keyed.mem_names_iff.mpr ⟨value, hget⟩)) h

end NodeReport

import Mathlib.Data.Rat.Cast.Order
import Mathlib.Order.Compare
import NodeReport.Proofs.Number.Nearest
import NodeReport.Proofs.Store.Select

/-! # The order of rows

  Values are ordered by kind, then by number, then by bytes, which is the lexicographic order of
  keys (`StoredValue.order_eq_compareKey`). It is transitive, numbers with and without fractions
  together, and so the rows of a selection are sorted by the columns of its order
  (`Selection.pairwise_picked`). Rows that these columns leave tied stay as they were met, and this is
  all that the order does not settle (`Selection.picked_eq_of_ties`).
-/

namespace NodeReport

/-! ### Numbers -/

/-- Numbers with a positive denominator are ordered like their cross products. -/
theorem compare_div (a c : Int) {b d : Nat} (hb : 0 < b) (hd : 0 < d) :
    compare (a * d) (c * b) = compare ((a : ℚ) / b) ((c : ℚ) / d) := by
  have hb' : (0 : ℚ) < b := by exact_mod_cast hb
  have hd' : (0 : ℚ) < d := by exact_mod_cast hd
  rcases lt_trichotomy (a * d) (c * b) with h | h | h
  · have hlt : (a : ℚ) / b < c / d := by
      rw [div_lt_div_iff₀ hb' hd']
      exact_mod_cast h
    rw [compare_lt_iff_lt.mpr h, compare_lt_iff_lt.mpr hlt]
  · have heq : (a : ℚ) / b = c / d := by
      rw [div_eq_div_iff hb'.ne' hd'.ne']
      exact_mod_cast h
    rw [compare_eq_iff_eq.mpr h, compare_eq_iff_eq.mpr heq]
  · have hgt : (c : ℚ) / d < a / b := by
      rw [div_lt_div_iff₀ hd' hb']
      exact_mod_cast h
    rw [compare_gt_iff_gt.mpr h, compare_gt_iff_gt.mpr hgt]

namespace Binary64

/-- Where a number stands: the infinities lie outside of the finite numbers, which are in the order of
    their values. -/
def key : Binary64 → Nat × ℚ
  | .infinite true => (1, 0)
  | .nan => (2, 0)
  | .finite negative m e _ => (3, signed negative (numerator m e) / denominator e)
  | .infinite false => (4, 0)

theorem signed_mul (negative : Bool) (m k : Nat) :
    signed negative (m * k) = signed negative m * k := by
  cases negative with
  | false => exact Int.natCast_mul m k
  | true => simp [signed]

/-- Two numbers are ordered like their keys. -/
theorem compare_eq_then (x y : Binary64) :
    x.compare y = (Ord.compare x.key.1 y.key.1).then (Ord.compare x.key.2 y.key.2) := by
  cases x with
  | nan =>
    cases y with
    | nan => simp [compare, key]
    | infinite t => cases t <;> rfl
    | finite t n e h => rfl
  | infinite s =>
    cases y with
    | nan => cases s <;> rfl
    | infinite t => cases s <;> cases t <;> simp [compare, key] <;> rfl
    | finite t n e h => cases s <;> rfl
  | finite s m d h =>
    cases y with
    | nan => rfl
    | infinite t => cases t <;> rfl
    | finite t n e h' =>
      -- two finite numbers are compared without a division
      show Ord.compare (signed s (numerator m d * denominator e))
        (signed t (numerator n e * denominator d)) = Ord.compare _ _
      rw [signed_mul, signed_mul]
      exact compare_div _ _ (denominator_pos d) (denominator_pos e)

/-- An integer stands among the finite numbers. -/
theorem compareInt_eq_then (x : Binary64) (n : Int) :
    x.compareInt n = (Ord.compare x.key.1 3).then (Ord.compare x.key.2 (n : ℚ)) := by
  cases x with
  | nan => rfl
  | infinite s => cases s <;> rfl
  | finite s m e h =>
    have hvalue := compare_div (signed s (numerator m e)) n (denominator_pos e) one_pos
    simp only [Nat.cast_one, mul_one, div_one] at hvalue
    exact hvalue

theorem key_bounds (x : Binary64) : 0 < x.key.1 ∧ x.key.1 < 5 := by
  cases x with
  | nan => decide
  | infinite s => cases s <;> decide
  | finite s m e h => exact ⟨Nat.succ_pos 2, by show 3 < 5; decide⟩

end Binary64

namespace StoredValue

/-- Kind, number and bytes of a value, and the number that decides on equal bytes. -/
def key (c : Collation) : StoredValue → Nat × ℚ × List UInt8 × Nat
  | .null => (0, 0, [], 0)
  | .integer n => (3, n, [], 0)
  | .real x => (x.key.1, x.key.2, [], 0)
  | .text bytes => (5, 0, (c.key bytes).1, (c.key bytes).2)
  | .blob bytes => (6, 0, bytes, 0)

/-- The lexicographic order of keys. -/
def compareKey : Nat × ℚ × List UInt8 × Nat → Nat × ℚ × List UInt8 × Nat → Ordering :=
  compareLex (compareOn fun k => k.1) (compareLex (compareOn fun k => k.2.1)
    (compareLex (fun k l => compareBytes k.2.2.1 l.2.2.1) (compareOn fun k => k.2.2.2)))

instance : Std.TransCmp compareKey :=
  have : Std.TransCmp fun k l : Nat × ℚ × List UInt8 × Nat => compareBytes k.2.2.1 l.2.2.1 :=
    transCmp_on compareBytes fun k : Nat × ℚ × List UInt8 × Nat => k.2.2.1
  inferInstanceAs (Std.TransCmp (compareLex _ (compareLex _ (compareLex _ _))))

theorem compareKey_of_lt {k l : Nat × ℚ × List UInt8 × Nat} (h : k.1 < l.1) :
    compareKey k l = .lt := by
  show (compare k.1 l.1).then _ = .lt
  rw [Nat.compare_eq_lt.mpr h]
  rfl

theorem compareKey_of_gt {k l : Nat × ℚ × List UInt8 × Nat} (h : l.1 < k.1) :
    compareKey k l = .gt := by
  show (compare k.1 l.1).then _ = .gt
  rw [Nat.compare_eq_gt.mpr h]
  rfl

/-- Keys without bytes are ordered by kind and number. -/
theorem compareKey_number (k l : Nat × ℚ) :
    compareKey (k.1, k.2, [], 0) (l.1, l.2, [], 0) =
      (compare k.1 l.1).then (compare k.2 l.2) := by
  show (compare k.1 l.1).then ((compare k.2 l.2).then .eq) = _
  rw [Ordering.then_eq]

/-- Keys of one kind without numbers are ordered by their bytes. -/
theorem compareKey_bytes (kind : Nat) (as bs : List UInt8 × Nat) :
    compareKey (kind, 0, as) (kind, 0, bs) =
      (compareBytes as.1 bs.1).then (compare as.2 bs.2) := by
  show (compare kind kind).then ((compare (0 : ℚ) 0).then _) = _
  rw [compare_eq_iff_eq.mpr rfl, compare_eq_iff_eq.mpr rfl]
  rfl

/-- Values are ordered like their keys. -/
theorem order_eq_compareKey (c : Collation) (a b : StoredValue) :
    a.order c b = compareKey (a.key c) (b.key c) := by
  cases a with
  | null =>
    cases b with
    | null => exact (compareKey_bytes 0 ([], 0) ([], 0)).symm
    | integer m => rfl
    | real y => exact (compareKey_of_lt y.key_bounds.1).symm
    | text bytes => rfl
    | blob bytes => rfl
  | integer n =>
    cases b with
    | null => rfl
    | integer m =>
      have hvalue := compare_div n m one_pos one_pos
      simp only [Nat.cast_one, mul_one, div_one] at hvalue
      exact hvalue.trans (compareKey_number (3, n) (3, m)).symm
    | real y =>
      -- only the order of a real and an integer is defined, and here it is turned around
      have hswap : compareKey (3, n, [], 0) (y.key.1, y.key.2, [], 0) =
          (compareKey (y.key.1, y.key.2, [], 0) (3, n, [], 0)).swap := Std.OrientedCmp.eq_swap
      show (y.compareInt n).swap = compareKey (3, n, [], 0) (y.key.1, y.key.2, [], 0)
      rw [hswap, compareKey_number y.key (3, n), y.compareInt_eq_then]
    | text bytes => rfl
    | blob bytes => rfl
  | real x =>
    cases b with
    | null => exact (compareKey_of_gt x.key_bounds.1).symm
    | integer m =>
      exact (x.compareInt_eq_then m).trans (compareKey_number x.key (3, m)).symm
    | real y => exact (x.compare_eq_then y).trans (compareKey_number x.key y.key).symm
    | text bytes => exact (compareKey_of_lt x.key_bounds.2).symm
    | blob bytes => exact (compareKey_of_lt (Nat.lt_succ_of_lt x.key_bounds.2)).symm
  | text bytes =>
    cases b with
    | null => rfl
    | integer m => rfl
    | real y => exact (compareKey_of_gt y.key_bounds.2).symm
    | text bytes' => exact (compareKey_bytes 5 (c.key bytes) (c.key bytes')).symm
    | blob bytes' => rfl
  | blob bytes =>
    cases b with
    | null => rfl
    | integer m => rfl
    | real y => exact (compareKey_of_gt (Nat.lt_succ_of_lt y.key_bounds.2)).symm
    | text bytes' => rfl
    | blob bytes' =>
      have hbytes : (compareBytes bytes bytes').then (compare 0 0) = compareBytes bytes bytes' :=
        Ordering.then_eq
      exact hbytes.symm.trans (compareKey_bytes 6 (bytes, 0) (bytes', 0)).symm

instance (c : Collation) : Std.TransCmp (order c) where
  eq_swap := by
    intro a b
    rw [order_eq_compareKey, order_eq_compareKey]
    exact Std.OrientedCmp.eq_swap
  isLE_trans := by
    intro a b d
    simp only [order_eq_compareKey]
    exact Std.TransCmp.isLE_trans

end StoredValue

/-- Rows are ordered lexicographically. -/
theorem TableShape.orderBy_cons (shape : TableShape) (name : String) (columns : List String) :
    shape.orderBy (name :: columns) = compareLex
      (fun a b => (shape.valueIn name a).order (shape.collationOf name) (shape.valueIn name b))
      (shape.orderBy columns) :=
  rfl

instance (shape : TableShape) (columns : List String) :
    Std.TransCmp (shape.orderBy columns) := by
  induction columns with
  | nil => exact { eq_swap := rfl, isLE_trans := fun _ _ => rfl }
  | cons name columns ih =>
    have hvalue := transCmp_on (StoredValue.order (shape.collationOf name)) (shape.valueIn name)
    rw [TableShape.orderBy_cons]
    exact inferInstance

/-! ### Sorting with ties -/

section Ties

variable {α : Type} {cmp : α → α → Ordering} [Std.TransCmp cmp] {xs ys : List α}

theorem isLE_or_isLE (a b : α) : ((cmp a b).isLE || (cmp b a).isLE) = true := by
  have hswap : cmp b a = (cmp a b).swap := Std.OrientedCmp.eq_swap
  rw [hswap]
  cases cmp a b <;> rfl

theorem pairwise_mergeSort_cmp (xs : List α) :
    (xs.mergeSort fun a b => (cmp a b).isLE).Pairwise fun a b => (cmp a b).isLE = true :=
  List.pairwise_mergeSort (fun _ _ _ => Std.TransCmp.isLE_trans) isLE_or_isLE xs

/-- Members that are tied stay in their order. -/
theorem filter_mergeSort_cmp (a : α) (xs : List α) :
    (xs.mergeSort fun x y => (cmp x y).isLE).filter (cmp a · == .eq) =
      xs.filter (cmp a · == .eq) := by
  have htied : (xs.filter (cmp a · == .eq)).Pairwise fun x y => (cmp x y).isLE = true := by
    apply List.pairwise_of_forall_mem_list
    intro x hx y hy
    have hax : cmp a x = .eq := by simpa using (List.mem_filter.mp hx).2
    have hay : cmp a y = .eq := by simpa using (List.mem_filter.mp hy).2
    rw [← Std.TransCmp.congr_left hax, hay]
    rfl
  have hsub := List.sublist_mergeSort (fun _ _ _ => Std.TransCmp.isLE_trans) isLE_or_isLE htied
    List.filter_sublist
  -- they are among the tied members of the sorted list, of which there are no more
  have htwice := hsub.filter (cmp a · == .eq)
  rw [List.filter_filter] at htwice
  simp only [Bool.and_self] at htwice
  have hlength := ((List.mergeSort_perm xs fun x y => (cmp x y).isLE).filter
    (cmp a · == .eq)).length_eq
  exact (htwice.eq_of_length hlength.symm).symm

/-- The first of a sorted list comes no later than any of its members. -/
theorem isLE_of_mem_cons {x y : α}
    (h : (x :: xs).Pairwise fun a b => (cmp a b).isLE = true) (hy : y ∈ x :: xs) :
    (cmp x y).isLE = true := by
  rcases List.mem_cons.mp hy with heq | hy
  · have hself : cmp x x = .eq := Std.ReflCmp.compare_self
    rw [heq, hself]
    rfl
  · exact (List.pairwise_cons.mp h).1 y hy

/-- Two sorted lists with the same members are equal if tied members stand in the same order. -/
theorem eq_of_pairwise_of_filter (hperm : xs.Perm ys)
    (hx : xs.Pairwise fun a b => (cmp a b).isLE = true)
    (hy : ys.Pairwise fun a b => (cmp a b).isLE = true)
    (hties : ∀ a ∈ xs, xs.filter (cmp a · == .eq) = ys.filter (cmp a · == .eq)) : xs = ys := by
  induction xs generalizing ys with
  | nil => exact hperm.nil_eq
  | cons x xs ih =>
    cases ys with
    | nil => exact hperm.eq_nil
    | cons y ys =>
      -- the first of each list comes no later than that of the other
      have hfirst : cmp x y = .eq :=
        Std.OrientedCmp.isLE_antisymm
          (isLE_of_mem_cons hx (hperm.mem_iff.mpr List.mem_cons_self))
          (isLE_of_mem_cons hy (hperm.mem_iff.mp List.mem_cons_self))
      have hself : cmp x x = .eq := Std.ReflCmp.compare_self
      have hhead := hties x List.mem_cons_self
      rw [List.filter_cons_of_pos (by simp [hself]), List.filter_cons_of_pos (by simp [hfirst])]
        at hhead
      obtain ⟨rfl, -⟩ := List.cons.inj hhead
      -- without it, those that are tied still stand in the same order
      have hrest : xs = ys := by
        apply ih hperm.cons_inv hx.of_cons hy.of_cons
        intro a ha
        have hall := hties a (List.mem_cons_of_mem x ha)
        by_cases htied : cmp a x = .eq
        · rw [List.filter_cons_of_pos (by simp [htied]), List.filter_cons_of_pos (by simp [htied])]
            at hall
          exact (List.cons.inj hall).2
        · rwa [List.filter_cons_of_neg (by simp [htied]),
            List.filter_cons_of_neg (by simp [htied])] at hall
      rw [hrest]

end Ties

namespace Selection

/-- The picked rows are sorted by the columns of the order. -/
theorem pairwise_picked (s : Selection) (t : StoredTable) :
    (s.picked t).Pairwise fun a b => comesFirst t.shape s.order a b = true :=
  pairwise_mergeSort_cmp (s.met t)

/-- Rows that stand in the order of a selection, no two of them tied, are picked as they stand. -/
theorem picked_eq_of_pairwise {s : Selection} {t : StoredTable}
    (h : (s.satisfying t).Pairwise fun a b => t.shape.orderBy s.order a b = .lt) :
    s.picked t = s.satisfying t := by
  have hsorted := h.imp fun hlt => Ordering.isLE_of_eq_lt hlt
  have hdistinct : (s.satisfying t).Pairwise fun a b =>
      t.shape.orderBy s.order a b = .eq → a = b := by
    refine h.imp ?_
    intro a b hlt heq
    rw [hlt] at heq
    cases heq
  have : Std.Symm fun a b => t.shape.orderBy s.order a b = .eq → a = b :=
    ⟨fun a b hab heq => (hab (Std.OrientedCmp.eq_symm heq)).symm⟩
  have huntied := hdistinct.forall_of_forall fun _ _ _ => rfl
  refine (s.picked_perm t).eq_of_pairwise ?_ (s.pairwise_picked t) hsorted
  intro a b ha hb hab hba
  exact huntied ((s.picked_perm t).mem_iff.mp ha) hb (Std.OrientedCmp.isLE_antisymm hab hba)

end Selection

end NodeReport

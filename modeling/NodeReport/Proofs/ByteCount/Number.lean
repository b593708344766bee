import NodeReport.ByteCount
import NodeReport.Proofs.Number.Literal

/-! # Counts read from numbers

  A count is read from a number that is not below zero. Scaling by a unit is exact, so that the
  product is rounded once, to the nearest whole number; what lies beyond the greatest count is cut
  off, also where the product overflows.

  * `toNatUpTo_scale`: scaling and rounding to a whole number as one rounding of the exact product;
  * `readScaledCount?_of_readsAs`, `readPlainCount?_of_readsAs`: counts with a unit and without one.
-/

namespace NodeReport

/-! ### Sizes of units -/

namespace ByteUnit

theorem size_eq_zpow (u : ByteUnit) : (u.size : ℚ) = 2 ^ (u.power : Int) := by
  rw [zpow_natCast]
  exact Nat.cast_pow 2 u.power

theorem size_bounds (u : ByteUnit) : 1024 ≤ u.size ∧ u.size ≤ 1073741824 := by
  cases u <;> decide

theorem size_pos (u : ByteUnit) : (0 : ℚ) < u.size := by
  have hsize := u.size_bounds.1
  exact_mod_cast (show 0 < u.size by omega)

theorem one_le_size (u : ByteUnit) : (1 : ℚ) ≤ u.size := by
  have hsize := u.size_bounds.1
  exact_mod_cast (show 1 ≤ u.size by omega)

end ByteUnit

/-! ### Rounding to a count -/

/-- The nearest count of a number, a half going up, and the greatest count for what lies beyond. -/
def roundedCount (q : ℚ) : Nat :=
  min maxNat64 (round q).toNat

theorem toNat_round {q : ℚ} (hq : 0 ≤ q) : (round q).toNat = roundRat .up q := by
  rw [← roundRat_up hq, Int.toNat_natCast]

namespace Binary64

/-- A finite number that is not less than zero has no minus sign, or is a zero with one. -/
theorem finite_cases {x : Binary64} (hfinite : x.isFinite = true) (hx : x.isNegative = false) :
    (∃ m e h, x = .finite false m e h) ∨ ∃ e h, x = .finite true 0 e h := by
  cases x with
  | nan => cases hfinite
  | infinite negative => cases hfinite
  | finite negative m e h =>
    cases negative with
    | false => exact .inl ⟨m, e, h, rfl⟩
    | true =>
      obtain rfl : m = 0 := by simpa [isNegative] using hx
      exact .inr ⟨e, h, rfl⟩

theorem value_zero {negative : Bool} {e : Int} (h : IsCanonical 0 e) :
    (finite negative 0 e h).value = 0 := by
  simp [value, magnitude]

theorem isNegative_eq_false_iff {x : Binary64} (hfinite : x.isFinite = true) :
    x.isNegative = false ↔ 0 ≤ x.value := by
  constructor
  · intro hx
    rcases finite_cases hfinite hx with ⟨m, e, h, rfl⟩ | ⟨e, h, rfl⟩
    · exact magnitude_nonneg m e
    · rw [value_zero]
  · intro hvalue
    cases x with
    | nan => cases hfinite
    | infinite negative => cases hfinite
    | finite negative m e h =>
      cases negative with
      | false => rfl
      | true =>
        -- with a minus sign only zero is not less than zero
        have hneg : 0 ≤ -magnitude m e := hvalue
        have hzero : magnitude m e = 0 := le_antisymm (by linarith) (magnitude_nonneg m e)
        have hm : (m : ℚ) = 0 :=
          (mul_eq_zero.mp hzero).resolve_right (zpow_pos (by norm_num) e).ne'
        obtain rfl : m = 0 := by exact_mod_cast hm
        rfl

/-- Rounding to a whole number rounds the value. -/
theorem toNatUpTo_eq (limit : Nat) {x : Binary64} (hfinite : x.isFinite = true)
    (hx : x.isNegative = false) : x.toNatUpTo limit = min limit (round x.value).toNat := by
  rcases finite_cases hfinite hx with ⟨m, e, h, rfl⟩ | ⟨e, h, rfl⟩
  · show min limit (roundMagnitude m e) = min limit (round (magnitude m e)).toNat
    rw [toNat_round (magnitude_nonneg m e), roundMagnitude_eq]
  · rw [value_zero, round_zero]
    simp [toNatUpTo]

/-- Scaling up and rounding to a whole number rounds the exact product: what overflows on the way
    is beyond every limit. -/
theorem toNatUpTo_scale {limit : Nat} (hlimit : (limit : ℚ) ≤ 2 ^ (1024 : Int)) {x : Binary64}
    (hfinite : x.isFinite = true) (hx : x.isNegative = false) (k : Nat) :
    (x.scale k).toNatUpTo limit = min limit (round (x.value * 2 ^ (k : Int))).toNat := by
  rcases finite_cases hfinite hx with ⟨m, e, h, rfl⟩ | ⟨e, h, rfl⟩
  · have hexponent := h.2.2.1
    have hproduct : 0 ≤ magnitude m e * 2 ^ (k : Int) :=
      mul_nonneg (magnitude_nonneg m e) (zpow_nonneg (by norm_num) _)
    show _ = min limit (round (magnitude m e * 2 ^ (k : Int))).toNat
    rw [toNat_round hproduct]
    rcases scale_cases false h (show -1074 ≤ e + (k : Int) by omega) with
      ⟨m', e', h', hscale, hsame⟩ | ⟨hscale, hlarge⟩
    · rw [hscale, ← hsame, ← roundMagnitude_eq]
      rfl
    · -- an infinity is cut off, and so is the product
      have hround := roundRat_mono .up (Nat.cast_nonneg limit) (hlimit.trans hlarge)
      rw [roundRat_natCast] at hround
      rw [hscale, Nat.min_eq_left hround]
      rfl
  · -- zero with a minus sign stays what it is
    have hscale : (finite true 0 e h).scale k = zero true := by
      simp [scale, nearestScaled, nearest, numerator]
    rw [hscale, value_zero, zero_mul, round_zero]
    simp [toNatUpTo, zero]

end Binary64

/-! ### Numbers -/

/-- A number that is not below zero is one that the readers of counts take. -/
theorem exists_readBinary64?_of_readsAs {cs : List Char} {q : ℚ} (h : ReadsAs cs q) (hq : 0 ≤ q) :
    ∃ x, readBinary64? cs = some x ∧ x.isFinite = true ∧ x.isNegative = false ∧ x.value = q := by
  obtain ⟨x, hread, hfinite, rfl⟩ := readsAs_iff.mp h
  exact ⟨x, hread, hfinite, (Binary64.isNegative_eq_false_iff hfinite).mpr hq, rfl⟩

/-- Without such a number the readers of counts refuse what they read. -/
theorem not_count_of_readsAs {cs : List Char} (h : ∀ q, ReadsAs cs q → q < 0) {x : Binary64}
    (hread : readBinary64? cs = some x) : (x.isFinite && !x.isNegative) = false := by
  cases hfinite : x.isFinite with
  | false => rfl
  | true =>
    have hvalue := h x.value (readsAs_iff.mpr ⟨x, hread, hfinite, rfl⟩)
    cases hx : x.isNegative with
    | true => rfl
    | false => exact absurd ((Binary64.isNegative_eq_false_iff hfinite).mp hx) (not_le.mpr hvalue)

theorem readScaledCount?_of_readsAs {cs : List Char} {q : ℚ} (u : ByteUnit) (h : ReadsAs cs q)
    (hq : 0 ≤ q) : readScaledCount? u cs = some (roundedCount (q * u.size)) := by
  obtain ⟨x, hread, hfinite, hx, rfl⟩ := exists_readBinary64?_of_readsAs h hq
  have hmax : (maxNat64 : ℚ) ≤ 2 ^ (1024 : Int) := by
    calc (maxNat64 : ℚ) ≤ 2 ^ (64 : Int) := by norm_num [maxNat64]
      _ ≤ 2 ^ (1024 : Int) := zpow_le_zpow_right₀ (by norm_num) (by decide)
  unfold readScaledCount?
  simp only [hread, hfinite, hx, Bool.not_false, Bool.and_self, if_true]
  rw [Binary64.toNatUpTo_scale hmax hfinite hx, ← u.size_eq_zpow, roundedCount]

theorem readScaledCount?_eq_none {cs : List Char} (u : ByteUnit) (h : ∀ q, ReadsAs cs q → q < 0) :
    readScaledCount? u cs = none := by
  unfold readScaledCount?
  split
  · rename_i x hread
    rw [if_neg (by rw [not_count_of_readsAs h hread]; decide)]
  · rfl

theorem readPlainCount?_of_writesNat {cs : List Char} {n : Nat} (h : WritesNat cs n)
    (hn : n ≤ maxNat64) : readPlainCount? cs = some n := by
  unfold readPlainCount?
  rw [readNat?_eq_some_iff.mpr ⟨h, hn⟩]

/-- What is no natural number of 64 bits. -/
theorem readNat?_eq_none {cs : List Char} (h : ∀ n, WritesNat cs n → maxNat64 < n) :
    readNat? maxNat64 cs = none := by
  rw [Option.eq_none_iff_forall_ne_some]
  intro n hread
  obtain ⟨hwrites, hn⟩ := readNat?_eq_some_iff.mp hread
  exact absurd hn (Nat.not_le.mpr (h n hwrites))

theorem readPlainCount?_of_readsAs {cs : List Char} {q : ℚ}
    (hnat : ∀ n, WritesNat cs n → maxNat64 < n) (h : ReadsAs cs q) (hq : 0 ≤ q) :
    readPlainCount? cs = some (roundedCount q) := by
  obtain ⟨x, hread, hfinite, hx, rfl⟩ := exists_readBinary64?_of_readsAs h hq
  unfold readPlainCount?
  simp only [readNat?_eq_none hnat, hread, hfinite, hx, Bool.not_false, Bool.and_self, if_true]
  rw [Binary64.toNatUpTo_eq maxNat64 hfinite hx, roundedCount]

theorem readPlainCount?_eq_none {cs : List Char} (hnat : ∀ n, WritesNat cs n → maxNat64 < n)
    (h : ∀ q, ReadsAs cs q → q < 0) : readPlainCount? cs = none := by
  unfold readPlainCount?
  rw [readNat?_eq_none hnat]
  simp only
  split
  · rename_i x hread
    rw [if_neg (by rw [not_count_of_readsAs h hread]; decide)]
  · rfl

end NodeReport

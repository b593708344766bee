import Mathlib.Algebra.Order.Field.Rat
import Mathlib.Algebra.Order.Round
import Mathlib.Data.Rat.Floor
import Mathlib.Tactic.Linarith
import Mathlib.Tactic.Positivity
import Mathlib.Tactic.Ring
import NodeReport.Number.Binary64

/-! # Rounded numbers

  A rounded quotient is off by at most one half and depends on the quotient alone, so that rounding
  is a function of rational numbers. It keeps their order and leaves whole numbers as they are.
-/

namespace NodeReport

/-! ### Rounded quotients -/

/-- The rounded quotient is at most one half away, whichever way ties go. -/
theorem roundDiv_bounds (tie : Tie) (num : Nat) {den : Nat} (hden : 0 < den) :
    2 * num ≤ 2 * (den * roundDiv tie num den) + den ∧
      2 * (den * roundDiv tie num den) ≤ 2 * num + den := by
  have hdiv := Nat.div_add_mod num den
  have hmod := Nat.mod_lt num hden
  have hsucc : den * (num / den + 1) = den * (num / den) + den := Nat.mul_succ ..
  unfold roundDiv
  simp only
  -- below half of the divisor, above it, and at a tie, where the remainder is half of it
  split
  · constructor <;> omega
  · split
    · rw [hsucc]
      constructor <;> omega
    · cases tie with
      | up =>
        simp only [hsucc]
        constructor <;> omega
      | toEven =>
        simp only
        rcases Nat.mod_two_eq_zero_or_one (num / den) with heven | hodd
        · rw [heven, Nat.add_zero]
          constructor <;> omega
        · rw [hodd, hsucc]
          constructor <;> omega

theorem abs_roundDiv_sub_le (tie : Tie) (num : Nat) {den : Nat} (hden : 0 < den) :
    |(roundDiv tie num den : ℚ) - num / den| ≤ 1 / 2 := by
  obtain ⟨hlow, hhigh⟩ := roundDiv_bounds tie num hden
  have hpos : (0 : ℚ) < den := by exact_mod_cast hden
  have hlow' : (2 : ℚ) * num ≤ 2 * (den * roundDiv tie num den) + den := by exact_mod_cast hlow
  have hhigh' : (2 : ℚ) * (den * roundDiv tie num den) ≤ 2 * num + den := by exact_mod_cast hhigh
  have hscaled : |((roundDiv tie num den : ℚ) - num / den) * den| ≤ 1 / 2 * den := by
    rw [sub_mul, div_mul_cancel₀ _ hpos.ne', abs_le]
    constructor <;> linarith
  rw [abs_mul, abs_of_pos hpos] at hscaled
  exact le_of_mul_le_mul_right hscaled hpos

/-! ### Rounding as a function of the quotient -/

theorem roundDiv_mul_left (tie : Tie) (num den : Nat) {k : Nat} (hk : 0 < k) :
    roundDiv tie (k * num) (k * den) = roundDiv tie num den := by
  have hlt : 2 * (k * (num % den)) < k * den ↔ 2 * (num % den) < den := by
    rw [Nat.mul_left_comm, Nat.mul_lt_mul_left hk]
  have hgt : k * den < 2 * (k * (num % den)) ↔ den < 2 * (num % den) := by
    rw [Nat.mul_left_comm, Nat.mul_lt_mul_left hk]
  unfold roundDiv
  simp only [Nat.mul_div_mul_left num den hk, Nat.mul_mod_mul_left, hlt, hgt]

/-- Rounding depends on the quotient alone. -/
theorem roundDiv_congr (tie : Tie) {num den num' den' : Nat} (hden : 0 < den) (hden' : 0 < den')
    (h : (num : ℚ) / den = num' / den') : roundDiv tie num den = roundDiv tie num' den' := by
  have hpos : (den : ℚ) ≠ 0 := by exact_mod_cast hden.ne'
  have hpos' : (den' : ℚ) ≠ 0 := by exact_mod_cast hden'.ne'
  have hcross : den' * num = den * num' := by
    have hrat : (num : ℚ) * den' = num' * den := (div_eq_div_iff hpos hpos').mp h
    have hnat : num * den' = num' * den := by exact_mod_cast hrat
    rw [Nat.mul_comm den', hnat, Nat.mul_comm]
  rw [← roundDiv_mul_left tie num den hden', ← roundDiv_mul_left tie num' den' hden, hcross,
    Nat.mul_comm den' den]

/-- The whole number nearest to a number that is not negative. -/
def roundRat (tie : Tie) (q : ℚ) : Nat :=
  roundDiv tie q.num.toNat q.den

theorem roundDiv_eq_roundRat (tie : Tie) (num : Nat) {den : Nat} (hden : 0 < den) :
    roundDiv tie num den = roundRat tie (num / den) := by
  have hnonneg : (0 : ℚ) ≤ num / den := by positivity
  have hnum : ((((num : ℚ) / den).num.toNat : Nat) : ℚ) = ((num : ℚ) / den).num := by
    have hint := Int.toNat_of_nonneg (Rat.num_nonneg.mpr hnonneg)
    exact_mod_cast hint
  apply roundDiv_congr tie hden (Rat.den_pos _)
  rw [hnum, Rat.num_div_den]

section

variable (tie : Tie) {p q : ℚ}

theorem exists_roundDiv_eq (hq : 0 ≤ q) :
    ∃ num den : Nat, 0 < den ∧ (num : ℚ) / den = q ∧ roundRat tie q = roundDiv tie num den := by
  refine ⟨q.num.toNat, q.den, q.den_pos, ?_, rfl⟩
  have hint := Int.toNat_of_nonneg (Rat.num_nonneg.mpr hq)
  have hnum : ((q.num.toNat : Nat) : ℚ) = q.num := by exact_mod_cast hint
  rw [hnum, Rat.num_div_den]

theorem abs_roundRat_sub_le (hq : 0 ≤ q) : |(roundRat tie q : ℚ) - q| ≤ 1 / 2 := by
  obtain ⟨num, den, hden, hquot, hround⟩ := exists_roundDiv_eq tie hq
  rw [hround, ← hquot]
  exact abs_roundDiv_sub_le tie num hden

/-- Rounding keeps the order: two results in the wrong order would leave no room between the two
    numbers. -/
theorem roundRat_mono (hp : 0 ≤ p) (h : p ≤ q) : roundRat tie p ≤ roundRat tie q := by
  by_contra hnot
  have hstep : roundRat tie q + 1 ≤ roundRat tie p := by omega
  have hcast : (roundRat tie q : ℚ) + 1 ≤ roundRat tie p := by exact_mod_cast hstep
  have hlow := abs_le.mp (abs_roundRat_sub_le tie hp)
  have hhigh := abs_le.mp (abs_roundRat_sub_le tie (hp.trans h))
  have heq : p = q := by linarith
  rw [heq] at hnot
  exact hnot (Nat.le_refl _)

theorem roundRat_eq_of_abs_sub_lt {n : Nat} (hq : 0 ≤ q) (h : |q - n| < 1 / 2) :
    roundRat tie q = n := by
  have herror := abs_le.mp (abs_roundRat_sub_le tie hq)
  have hnear := abs_lt.mp h
  have hlow : (roundRat tie q : ℚ) < n + 1 := by linarith
  have hhigh : (n : ℚ) < roundRat tie q + 1 := by linarith
  have hlow' : roundRat tie q < n + 1 := by exact_mod_cast hlow
  have hhigh' : n < roundRat tie q + 1 := by exact_mod_cast hhigh
  omega

@[simp] theorem roundRat_natCast (n : Nat) : roundRat tie n = n :=
  roundRat_eq_of_abs_sub_lt tie (Nat.cast_nonneg n) (by norm_num)

end

/-- Half way up the rounded number is the greater one. -/
theorem roundDiv_up_lt (num : Nat) {den : Nat} (hden : 0 < den) :
    2 * num < 2 * (den * roundDiv .up num den) + den := by
  have hdiv := Nat.div_add_mod num den
  have hmod := Nat.mod_lt num hden
  have hsucc : den * (num / den + 1) = den * (num / den) + den := Nat.mul_succ ..
  unfold roundDiv
  simp only
  split
  · omega
  · split
    · rw [hsucc]
      omega
    · rw [hsucc]
      omega

/-- Ties going up is the rounding of the library. -/
theorem roundRat_up {q : ℚ} (hq : 0 ≤ q) : (roundRat .up q : Int) = round q := by
  obtain ⟨num, den, hden, hquot, hround⟩ := exists_roundDiv_eq .up hq
  have hpos : (0 : ℚ) < den := by exact_mod_cast hden
  have hlt : (2 : ℚ) * num < 2 * (den * roundDiv .up num den) + den := by
    exact_mod_cast roundDiv_up_lt num hden
  have herror := abs_le.mp (abs_roundRat_sub_le .up hq)
  rw [round_eq, eq_comm, Int.floor_eq_iff]
  rw [hround] at herror ⊢
  push_cast
  refine ⟨by linarith, ?_⟩
  have hscaled : q * den < (roundDiv .up num den + 1 / 2) * den := by
    rw [← hquot, div_mul_cancel₀ _ hpos.ne']
    linarith
  have := lt_of_mul_lt_mul_right hscaled hpos.le
  linarith

end NodeReport

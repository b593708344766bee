import Mathlib.Algebra.Order.Field.Power
import Mathlib.Data.Int.Log
import NodeReport.Number.Binary64
import NodeReport.Proofs.Number.Rounding

/-! # The nearest number of the format

  The number of the format that is nearest to a quotient is a function of the quotient, `near`. It
  keeps the order of quotients, leaves the numbers of the format as they are, and is off by at most
  one part in `2^53` in the middle of the range. Values are rational numbers here, so that errors
  can be added up.

  * `nearest_cases`: the operation on mantissas gives the number that `near` says, or an infinity;
  * `near_mono`, `near_magnitude`, `abs_near_sub_le`: order, fixed points and error of `near`;
  * `scale_cases`: scaling by a power of two is exact.
-/

namespace NodeReport

namespace Binary64

/-! ### Powers of two -/

/-- The exact value of a mantissa and an exponent. -/
def magnitude (m : Nat) (e : Int) : ℚ := m * 2 ^ e

theorem magnitude_nonneg (m : Nat) (e : Int) : 0 ≤ magnitude m e :=
  mul_nonneg (Nat.cast_nonneg m) (zpow_nonneg (by norm_num) e)

theorem pow2_pos (k : Nat) : (0 : ℚ) < pow2 k := by
  exact_mod_cast Nat.two_pow_pos k

theorem cast_pow2 (k : Nat) : ((pow2 k : Nat) : ℚ) = 2 ^ (k : Int) := by
  rw [zpow_natCast]
  exact Nat.cast_pow 2 k

/-- A power of two with an exponent of any sign, as a quotient of two natural powers. -/
theorem zpow_mul_pow2 (e : Int) : (2 : ℚ) ^ e * pow2 (-e).toNat = pow2 e.toNat := by
  rw [cast_pow2, cast_pow2, ← zpow_add₀ (by norm_num)]
  -- one of the two natural exponents is zero
  congr 1
  omega

theorem numerator_div_denominator (m : Nat) (e : Int) :
    (numerator m e : ℚ) / denominator e = magnitude m e := by
  have hpos := pow2_pos (-e).toNat
  unfold numerator denominator magnitude
  rw [div_eq_iff hpos.ne', Nat.cast_mul, ← zpow_mul_pow2 e]
  ring

theorem denominator_pos (e : Int) : 0 < denominator e :=
  Nat.two_pow_pos _

/-- A quotient of scaled numbers. -/
theorem scaled_div (num den : Nat) (e : Int) :
    ((num * pow2 (-e).toNat : Nat) : ℚ) / (den * pow2 e.toNat : Nat) = num / den / 2 ^ e := by
  have hpos := pow2_pos (-e).toNat
  have hzpow : (0 : ℚ) < 2 ^ e := zpow_pos (by norm_num) e
  rw [Nat.cast_mul, Nat.cast_mul, ← zpow_mul_pow2 e, div_div]
  rw [show (den : ℚ) * (2 ^ e * (pow2 (-e).toNat : Nat)) =
    den * 2 ^ e * (pow2 (-e).toNat : Nat) by ring, mul_div_mul_right _ _ hpos.ne']

theorem le_magnitude {m k : Nat} (e : Int) (h : pow2 k ≤ m) : 2 ^ (k + e) ≤ magnitude m e := by
  have hcast : ((pow2 k : Nat) : ℚ) ≤ m := by exact_mod_cast h
  rw [zpow_add₀ (by norm_num), ← cast_pow2]
  exact mul_le_mul_of_nonneg_right hcast (zpow_nonneg (by norm_num) e)

theorem magnitude_le {m k : Nat} (e : Int) (h : m ≤ pow2 k) : magnitude m e ≤ 2 ^ (k + e) := by
  have hcast : (m : ℚ) ≤ (pow2 k : Nat) := by exact_mod_cast h
  rw [zpow_add₀ (by norm_num), ← cast_pow2]
  exact mul_le_mul_of_nonneg_right hcast (zpow_nonneg (by norm_num) e)

theorem magnitude_lt {m k : Nat} (e : Int) (h : m < pow2 k) : magnitude m e < 2 ^ (k + e) := by
  have hcast : (m : ℚ) < (pow2 k : Nat) := by exact_mod_cast h
  rw [zpow_add₀ (by norm_num), ← cast_pow2]
  exact mul_lt_mul_of_pos_right hcast (zpow_pos (by norm_num) e)

theorem magnitude_two_pow (k : Nat) (e : Int) : magnitude (pow2 k) e = 2 ^ (k + e) :=
  le_antisymm (magnitude_le e (Nat.le_refl _)) (le_magnitude e (Nat.le_refl _))

/-! ### Binary logarithms -/

theorem zpow_le_div_iff {num den : Nat} (hden : 0 < den) (k : Int) :
    den * pow2 k.toNat ≤ num * pow2 (-k).toNat ↔ (2 : ℚ) ^ k ≤ num / den := by
  have hpos := pow2_pos (-k).toNat
  have hden' : (0 : ℚ) < den := by exact_mod_cast hden
  rw [le_div_iff₀ hden', ← mul_le_mul_iff_left₀ hpos, ← Nat.cast_le (α := ℚ), Nat.cast_mul,
    Nat.cast_mul, ← zpow_mul_pow2 k]
  rw [show (2 : ℚ) ^ k * den * (pow2 (-k).toNat : Nat) = den * (2 ^ k * (pow2 (-k).toNat : Nat))
    by ring]

/-- A positive natural number lies between two powers of two. -/
theorem log2_bounds {n : Nat} (hn : 0 < n) :
    (2 : ℚ) ^ (n.log2 : Int) ≤ n ∧ (n : ℚ) < 2 ^ ((n.log2 : Int) + 1) := by
  have hlow : 2 ^ n.log2 ≤ n := Nat.log2_self_le (by omega)
  have hhigh : n < 2 ^ (n.log2 + 1) := Nat.lt_log2_self
  constructor
  · rw [zpow_natCast]
    exact_mod_cast hlow
  · rw [← Nat.cast_succ, zpow_natCast]
    exact_mod_cast hhigh

theorem floorLog2_spec {num den : Nat} (hnum : 0 < num) (hden : 0 < den) :
    (2 : ℚ) ^ floorLog2 num den ≤ num / den ∧ (num : ℚ) / den < 2 ^ (floorLog2 num den + 1) := by
  obtain ⟨hnumLow, hnumHigh⟩ := log2_bounds hnum
  obtain ⟨hdenLow, hdenHigh⟩ := log2_bounds hden
  have hden' : (0 : ℚ) < den := by exact_mod_cast hden
  have htwo : (2 : ℚ) ≠ 0 := by norm_num
  -- the difference of the logarithms is the guess; both logarithms round down
  unfold floorLog2
  simp only
  split
  · -- the guess is right
    rename_i hguess
    refine ⟨(zpow_le_div_iff hden _).mp hguess, ?_⟩
    rw [div_lt_iff₀ hden']
    calc (num : ℚ) < 2 ^ ((num.log2 : Int) + 1) := hnumHigh
      _ = 2 ^ ((num.log2 : Int) - den.log2 + 1) * 2 ^ (den.log2 : Int) := by
        rw [← zpow_add₀ htwo]
        congr 1
        omega
      _ ≤ 2 ^ ((num.log2 : Int) - den.log2 + 1) * den :=
        mul_le_mul_of_nonneg_left hdenLow (zpow_nonneg (by norm_num) _)
  · -- the guess is one too large
    rename_i hguess
    rw [zpow_le_div_iff hden, not_le] at hguess
    rw [sub_add_cancel]
    refine ⟨?_, hguess⟩
    rw [le_div_iff₀ hden']
    calc (2 : ℚ) ^ ((num.log2 : Int) - den.log2 - 1) * den
        ≤ 2 ^ ((num.log2 : Int) - den.log2 - 1) * 2 ^ ((den.log2 : Int) + 1) :=
          mul_le_mul_of_nonneg_left hdenHigh.le (zpow_nonneg (by norm_num) _)
      _ = 2 ^ (num.log2 : Int) := by
        rw [← zpow_add₀ htwo]
        congr 1
        omega
      _ ≤ num := hnumLow

theorem log_bounds {q : ℚ} (hq : 0 < q) :
    (2 : ℚ) ^ Int.log 2 q ≤ q ∧ q < 2 ^ (Int.log 2 q + 1) := by
  have hlow := Int.zpow_log_le_self (b := 2) (by decide) hq
  have hhigh := Int.lt_zpow_succ_log_self (b := 2) (by decide) q
  exact_mod_cast And.intro hlow hhigh

theorem floorLog2_eq_log {num den : Nat} (hnum : 0 < num) (hden : 0 < den) :
    floorLog2 num den = Int.log 2 ((num : ℚ) / den) := by
  have hpos : (0 : ℚ) < num / den := by positivity
  have hone : (1 : ℚ) < 2 := by norm_num
  obtain ⟨hlow, hhigh⟩ := floorLog2_spec hnum hden
  obtain ⟨hlogLow, hlogHigh⟩ := log_bounds hpos
  -- two powers of two that bound the same number from below and from above
  have hle := (zpow_lt_zpow_iff_right₀ hone).mp (hlow.trans_lt hlogHigh)
  have hge := (zpow_lt_zpow_iff_right₀ hone).mp (hlogLow.trans_lt hhigh)
  omega

/-! ### Rounding to the format -/

/-- Exponent of the last place of a number of the format that is near to `q`. -/
def lastPlace (q : ℚ) : Int :=
  max (-1074) (Int.log 2 q - 52)

/-- Mantissa of the number of the format that is nearest to `q`. -/
def nearMantissa (q : ℚ) : Nat :=
  roundRat .toEven (q / 2 ^ lastPlace q)

/-- The number nearest to `q` among those of the format, if it had no greatest exponent. -/
def near (q : ℚ) : ℚ :=
  magnitude (nearMantissa q) (lastPlace q)

/-- The quotient by the last place lies in the range of the mantissas, and is rounded within it. -/
theorem nearMantissa_bounds {q : ℚ} (hq : 0 < q) :
    nearMantissa q ≤ pow2 53 ∧ (pow2 52 ≤ nearMantissa q ∨ lastPlace q = -1074) := by
  obtain ⟨hlow, hhigh⟩ := log_bounds hq
  have hpos : (0 : ℚ) < 2 ^ lastPlace q := zpow_pos (by norm_num) _
  have hquot : 0 ≤ q / 2 ^ lastPlace q := div_nonneg hq.le hpos.le
  have hone : (1 : ℚ) ≤ 2 := by norm_num
  unfold nearMantissa
  constructor
  · have hbound : q / 2 ^ lastPlace q ≤ (pow2 53 : Nat) := by
      rw [div_le_iff₀ hpos, cast_pow2, ← zpow_add₀ (by norm_num)]
      apply hhigh.le.trans (zpow_le_zpow_right₀ hone _)
      unfold lastPlace
      omega
    have hmono := roundRat_mono .toEven hquot hbound
    rwa [roundRat_natCast] at hmono
  · by_cases hleast : lastPlace q = -1074
    · exact .inr hleast
    · left
      have hbound : ((pow2 52 : Nat) : ℚ) ≤ q / 2 ^ lastPlace q := by
        rw [le_div_iff₀ hpos, cast_pow2, ← zpow_add₀ (by norm_num)]
        apply (zpow_le_zpow_right₀ hone _).trans hlow
        unfold lastPlace at hleast ⊢
        omega
      have hmono := roundRat_mono .toEven (Nat.cast_nonneg _) hbound
      rwa [roundRat_natCast] at hmono

@[simp] theorem near_zero : near 0 = 0 := by
  have hround := roundRat_natCast .toEven 0
  rw [Nat.cast_zero] at hround
  unfold near nearMantissa magnitude
  rw [zero_div, hround, Nat.cast_zero, zero_mul]

theorem near_nonneg (q : ℚ) : 0 ≤ near q :=
  magnitude_nonneg _ _

/-- Larger numbers have no smaller nearest number: with one last place because rounding keeps the
    order, and with different ones because a power of two lies between the two. -/
theorem near_mono {p q : ℚ} (hp : 0 ≤ p) (h : p ≤ q) : near p ≤ near q := by
  rcases hp.eq_or_lt with rfl | hp
  · rw [near_zero]
    exact near_nonneg q
  have hlog : Int.log 2 p ≤ Int.log 2 q := Int.log_mono_right hp h
  have hpos : (0 : ℚ) < 2 ^ lastPlace q := zpow_pos (by norm_num) _
  by_cases hplace : lastPlace p = lastPlace q
  · have hround : nearMantissa p ≤ nearMantissa q := by
      unfold nearMantissa
      rw [hplace]
      exact roundRat_mono .toEven (div_nonneg hp.le hpos.le) (div_le_div_of_nonneg_right h hpos.le)
    unfold near magnitude
    rw [hplace]
    apply mul_le_mul_of_nonneg_right _ hpos.le
    exact_mod_cast hround
  · have hlt : lastPlace p < lastPlace q ∧ lastPlace q ≠ -1074 := by
      unfold lastPlace at hplace ⊢
      omega
    have hmantissa := (nearMantissa_bounds (hp.trans_le h)).2.resolve_right hlt.2
    calc near p ≤ 2 ^ ((53 : Nat) + lastPlace p) := magnitude_le _ (nearMantissa_bounds hp).1
      _ ≤ 2 ^ ((52 : Nat) + lastPlace q) := zpow_le_zpow_right₀ (by norm_num) (by omega)
      _ ≤ near q := le_magnitude _ hmantissa

/-- A number of the format is its own nearest one. -/
theorem near_magnitude {m : Nat} {e : Int} (hm : m < pow2 53) (he : -1074 ≤ e) :
    near (magnitude m e) = magnitude m e := by
  rcases Nat.eq_zero_or_pos m with rfl | hmpos
  · simp [magnitude]
  have hq : 0 < magnitude m e :=
    mul_pos (by exact_mod_cast hmpos) (zpow_pos (by norm_num) e)
  -- the last place is not above that of the mantissa
  have hplace : lastPlace (magnitude m e) ≤ e := by
    have hlog := (zpow_lt_zpow_iff_right₀ (by norm_num : (1 : ℚ) < 2)).mp
      ((log_bounds hq).1.trans_lt (magnitude_lt e hm))
    unfold lastPlace
    omega
  unfold near nearMantissa
  generalize lastPlace (magnitude m e) = p at hplace
  have hpos : (0 : ℚ) < 2 ^ p := zpow_pos (by norm_num) p
  obtain ⟨k, rfl⟩ : ∃ k : Nat, e = k + p := ⟨(e - p).toNat, by omega⟩
  have hsplit : magnitude m (k + p) = (m * pow2 k : Nat) * 2 ^ p := by
    unfold magnitude
    rw [zpow_add₀ (by norm_num), Nat.cast_mul, cast_pow2, mul_assoc]
  rw [hsplit, mul_div_cancel_right₀ _ hpos.ne', roundRat_natCast]
  rfl

theorem near_two_zpow {k : Int} (hk : -1074 ≤ k) : near (2 ^ k) = 2 ^ k := by
  have h := near_magnitude (m := 1) (by decide) hk
  rwa [magnitude, Nat.cast_one, one_mul] at h

theorem near_natCast {n : Nat} (hn : n < pow2 53) : near n = n := by
  have h := near_magnitude (e := 0) hn (by decide)
  rwa [magnitude, zpow_zero, mul_one] at h

/-- What is less than half of the least positive number is rounded to zero. -/
theorem near_eq_zero {q : ℚ} (hq : 0 ≤ q) (h : q < 2 ^ (-1075 : Int)) : near q = 0 := by
  rcases hq.eq_or_lt with rfl | hpos
  · exact near_zero
  have hlog := (zpow_lt_zpow_iff_right₀ (by norm_num : (1 : ℚ) < 2)).mp
    ((log_bounds hpos).1.trans_lt h)
  have hplace : lastPlace q = -1074 := by
    unfold lastPlace
    omega
  have hunit : (0 : ℚ) < 2 ^ (-1074 : Int) := zpow_pos (by norm_num) _
  have hquot : q / 2 ^ (-1074 : Int) < 1 / 2 := by
    rw [div_lt_iff₀ hunit]
    calc q < 2 ^ (-1075 : Int) := h
      _ = 1 / 2 * 2 ^ (-1074 : Int) := by
        rw [show (-1074 : Int) = -1075 + 1 by decide, zpow_add_one₀ (by norm_num)]
        ring
  have hround : nearMantissa q = 0 := by
    unfold nearMantissa
    rw [hplace]
    apply roundRat_eq_of_abs_sub_lt .toEven (div_nonneg hq hunit.le)
    rw [Nat.cast_zero, sub_zero, abs_of_nonneg (div_nonneg hq hunit.le)]
    exact hquot
  unfold near magnitude
  rw [hround, Nat.cast_zero, zero_mul]

/-- Quotients in the middle of the range of the format. -/
def IsModerate (q : ℚ) : Prop :=
  2 ^ (-1000 : Int) ≤ q ∧ q < 2 ^ (1000 : Int)

theorem isModerate_of_bounds {q : ℚ} (hlow : 1 / 4 ≤ q) (hhigh : q ≤ 10 ^ 30) : IsModerate q := by
  have hone : (1 : ℚ) ≤ 2 := by norm_num
  constructor
  · calc (2 : ℚ) ^ (-1000 : Int) ≤ 2 ^ (-2 : Int) := zpow_le_zpow_right₀ hone (by omega)
      _ = 1 / 4 := by norm_num
      _ ≤ q := hlow
  · calc q ≤ 10 ^ 30 := hhigh
      _ < 2 ^ (100 : Int) := by norm_num
      _ ≤ 2 ^ (1000 : Int) := zpow_le_zpow_right₀ hone (by omega)

theorem IsModerate.pos {q : ℚ} (h : IsModerate q) : 0 < q :=
  lt_of_lt_of_le (zpow_pos (by norm_num) _) h.1

/-- In the middle of the range the nearest number is off by one part in `2^53` at most. -/
theorem abs_near_sub_le {q : ℚ} (h : IsModerate q) : |near q - q| ≤ q / 2 ^ (53 : Int) := by
  obtain ⟨hlow, hhigh⟩ := log_bounds h.pos
  have hlog := (zpow_lt_zpow_iff_right₀ (by norm_num : (1 : ℚ) < 2)).mp (h.1.trans_lt hhigh)
  have hplace : lastPlace q + 53 = Int.log 2 q + 1 := by
    unfold lastPlace
    omega
  have hpos : (0 : ℚ) < 2 ^ lastPlace q := zpow_pos (by norm_num) _
  have herror := abs_roundRat_sub_le .toEven (div_nonneg h.pos.le hpos.le)
  have hscale : near q - q = (nearMantissa q - q / 2 ^ lastPlace q) * 2 ^ lastPlace q := by
    unfold near magnitude
    rw [sub_mul, div_mul_cancel₀ _ hpos.ne']
  rw [hscale, abs_mul, abs_of_pos hpos, le_div_iff₀ (zpow_pos (by norm_num) _)]
  calc _ ≤ 1 / 2 * (2 : ℚ) ^ lastPlace q * 2 ^ (53 : Int) := by
        gcongr
        exact herror
    _ = 2 ^ Int.log 2 q := by
      rw [mul_assoc, ← zpow_add₀ (by norm_num), hplace, zpow_add_one₀ (by norm_num)]
      ring
    _ ≤ q := hlow

/-- A rounded mantissa is brought into its one form, also where it was rounded up to `2^53`; else
    the number is beyond the format. -/
theorem finish_cases (negative : Bool) {m : Nat} {e : Int} (hm : m ≤ pow2 53)
    (hlow : pow2 52 ≤ m ∨ e = -1074) (he : -1074 ≤ e) {x : Binary64}
    (hx : x = if h : IsCanonical m e then .finite negative m e h
      else if h : IsCanonical (pow2 52) (e + 1) then .finite negative (pow2 52) (e + 1) h
      else .infinite negative) :
    (∃ m' e' h, x = .finite negative m' e' h ∧ magnitude m' e' = magnitude m e) ∨
      x = .infinite negative ∧ (2 : ℚ) ^ (1024 : Int) ≤ magnitude m e := by
  have hone : (1 : ℚ) ≤ 2 := by norm_num
  by_cases hc : IsCanonical m e
  · rw [dif_pos hc] at hx
    exact .inl ⟨m, e, hc, hx, rfl⟩
  rw [dif_neg hc] at hx
  by_cases hfull : m = pow2 53
  · -- rounded up to the next power of two
    rw [hfull, magnitude_two_pow]
    by_cases hnext : IsCanonical (pow2 52) (e + 1)
    · rw [dif_pos hnext] at hx
      refine .inl ⟨_, _, hnext, hx, ?_⟩
      rw [magnitude_two_pow]
      congr 1
      omega
    · rw [dif_neg hnext] at hx
      refine .inr ⟨hx, zpow_le_zpow_right₀ hone ?_⟩
      by_contra hsmall
      exact hnext ⟨by decide, .inl (Nat.le_refl _), by omega, by omega⟩
  · -- 53 bits whose exponent is too large, for the next power of two as well
    have hlarge : 971 < e := by
      by_contra hsmall
      exact hc ⟨by omega, hlow, he, by omega⟩
    have hnext : ¬ IsCanonical (pow2 52) (e + 1) := fun hn => absurd hn.2.2.2 (by omega)
    rw [dif_neg hnext] at hx
    refine .inr ⟨hx, (zpow_le_zpow_right₀ hone ?_).trans (le_magnitude e (k := 52) ?_)⟩
    · omega
    · exact hlow.resolve_right (by omega)

/-- The nearest number is the one that `near` says, unless this is beyond the format. -/
theorem nearest_cases (negative : Bool) (num : Nat) {den : Nat} (hden : 0 < den) :
    (∃ m e h, nearest negative num den = .finite negative m e h ∧
      magnitude m e = near (num / den)) ∨
    nearest negative num den = .infinite negative ∧ (2 : ℚ) ^ (1024 : Int) ≤ near (num / den) := by
  rcases Nat.eq_zero_or_pos num with rfl | hnum
  · exact .inl ⟨0, -1074, by decide, by simp [nearest, zero], by simp [magnitude]⟩
  have hq : (0 : ℚ) < num / den := by positivity
  obtain ⟨hhigh, hlow⟩ := nearMantissa_bounds hq
  have hexponent : exponentFor num den = lastPlace (num / den) := by
    unfold exponentFor lastPlace
    rw [floorLog2_eq_log hnum hden]
  have hmantissa : roundDiv .toEven (num * pow2 (-lastPlace (num / den)).toNat)
      (den * pow2 (lastPlace (num / den)).toNat) = nearMantissa (num / den) := by
    have hpos : 0 < den * pow2 (lastPlace (num / den)).toNat :=
      Nat.mul_pos hden (Nat.two_pow_pos _)
    rw [roundDiv_eq_roundRat _ _ hpos, scaled_div]
    rfl
  apply finish_cases negative hhigh hlow (le_max_left ..)
  unfold nearest
  simp only [if_neg hnum.ne', hexponent, hmantissa]

/-! ### Operations in the middle of the range -/

theorem nearest_of_isModerate (negative : Bool) {num den : Nat} (hden : 0 < den)
    (h : IsModerate (num / den)) :
    ∃ m e h', nearest negative num den = .finite negative m e h' ∧
      magnitude m e = near (num / den) := by
  rcases nearest_cases negative num hden with hfinite | ⟨-, hlarge⟩
  · exact hfinite
  · -- the bound of the middle is a number of the format, and not beyond it
    have hmono := near_mono h.pos.le h.2.le
    rw [near_two_zpow (by decide)] at hmono
    have hpow := (zpow_le_zpow_iff_right₀ (by norm_num : (1 : ℚ) < 2)).mp (hlarge.trans hmono)
    omega

theorem ofNat_of_isModerate {n : Nat} (h : IsModerate n) :
    ∃ m e h', ofNat n = .finite false m e h' ∧ magnitude m e = near n := by
  have hquot : ((n : ℚ) / (1 : Nat)) = n := by rw [Nat.cast_one, div_one]
  have hnearest := nearest_of_isModerate false Nat.one_pos (by rw [hquot]; exact h)
  rwa [hquot] at hnearest

/-- Scaling moves the exponent alone, and is exact where the exponent stays in the format. -/
theorem scale_cases (negative : Bool) {m : Nat} {e k : Int} (hm : IsCanonical m e)
    (hk : -1074 ≤ e + k) :
    (∃ m' e' h, scale (.finite negative m e hm) k = .finite negative m' e' h ∧
      magnitude m' e' = magnitude m e * 2 ^ k) ∨
    scale (.finite negative m e hm) k = .infinite negative ∧
      (2 : ℚ) ^ (1024 : Int) ≤ magnitude m e * 2 ^ k := by
  have hquot : (numerator m (e + k) : ℚ) / denominator (e + k) = magnitude m (e + k) :=
    numerator_div_denominator m (e + k)
  have hshift : magnitude m (e + k) = magnitude m e * 2 ^ k := by
    unfold magnitude
    rw [zpow_add₀ (by norm_num), mul_assoc]
  have hcases := nearest_cases negative (numerator m (e + k)) (denominator_pos (e + k))
  rwa [hquot, near_magnitude hm.1 hk, hshift] at hcases

theorem scale_of_isModerate (negative : Bool) {m : Nat} {e k : Int} (hm : IsCanonical m e)
    (h : IsModerate (magnitude m e * 2 ^ k)) :
    ∃ m' e' h', scale (.finite negative m e hm) k = .finite negative m' e' h' ∧
      magnitude m' e' = magnitude m e * 2 ^ k := by
  have hone : (1 : ℚ) < 2 := by norm_num
  have hlow : (2 : ℚ) ^ (-1000 : Int) < 2 ^ ((53 : Nat) + e + k) := by
    rw [zpow_add₀ (by norm_num) _ k]
    exact h.1.trans_lt (mul_lt_mul_of_pos_right (magnitude_lt e hm.1) (zpow_pos (by norm_num) k))
  have hexponent := (zpow_lt_zpow_iff_right₀ hone).mp hlow
  rcases scale_cases negative hm (show -1074 ≤ e + k by omega) with hfinite | ⟨-, hlarge⟩
  · exact hfinite
  · have hpow := (zpow_lt_zpow_iff_right₀ hone).mp (hlarge.trans_lt h.2)
    omega

/-- Rounding to a whole number is rounding of the value. -/
theorem roundMagnitude_eq (m : Nat) (e : Int) : roundMagnitude m e = roundRat .up (magnitude m e) := by
  unfold roundMagnitude
  rw [roundDiv_eq_roundRat _ _ (denominator_pos e), numerator_div_denominator]

end Binary64

end NodeReport

import NodeReport.Proofs.ByteCount

/-! # Display texts in order

  Writing a count and reading its text back keeps the order of counts. The text that is read back
  is written again as it was, but for one unit of `MiB` or `GiB`, which no count exceeds by being
  it.

  * `readBytes_shownUnits_bounds`: what is read back does not leave the range of its unit;
  * `shownUnits_readBytes`: the thousandths that are read back are shown again.
-/

namespace NodeReport

/-! ### The unit of a count -/

/-- The unit that a count is shown in: the count exceeds it, and no larger one. -/
def ByteUnit.IsShownFor (u : ByteUnit) (n : Nat) : Prop :=
  u.size < n ∧ (u = .gib ∨ n ≤ 1024 * u.size)

theorem exists_isShownFor {n : Nat} (h : 1024 < n) : ∃ u : ByteUnit, u.IsShownFor n := by
  have hkib : ByteUnit.kib.size = 1024 := rfl
  have hmib : ByteUnit.mib.size = 1048576 := rfl
  have hgib : ByteUnit.gib.size = 1073741824 := rfl
  by_cases hlarge : 1073741824 < n
  · exact ⟨.gib, by omega, .inl rfl⟩
  · by_cases hmiddle : 1048576 < n
    · exact ⟨.mib, by omega, .inr (by omega)⟩
    · exact ⟨.kib, by omega, .inr (by omega)⟩

theorem ByteUnit.IsShownFor.exceededUnit? {u : ByteUnit} {n : Nat} (h : u.IsShownFor n) :
    exceededUnit? n = some u := by
  have hkib : ByteUnit.kib.size = 1024 := rfl
  have hmib : ByteUnit.mib.size = 1048576 := rfl
  have hgib : ByteUnit.gib.size = 1073741824 := rfl
  obtain ⟨hlow, hhigh⟩ := h
  unfold NodeReport.exceededUnit? ByteUnit.all
  cases u with
  | gib => simp [hlow]
  | mib =>
    have hnot : ¬ ByteUnit.gib.size < n := by
      have := hhigh.resolve_left (by decide)
      omega
    simp [hlow, hnot]
  | kib =>
    have hnot : ¬ ByteUnit.gib.size < n ∧ ¬ ByteUnit.mib.size < n := by
      have := hhigh.resolve_left (by decide)
      omega
    simp [hlow, hnot]

/-- Units of one size: the next larger one is 1024 of them. -/
theorem ByteUnit.size_lt_cases (u v : ByteUnit) :
    u = v ∨ 1024 * u.size ≤ v.size ∧ u ≠ .gib ∨ 1024 * v.size ≤ u.size ∧ v ≠ .gib := by
  cases u <;> cases v <;> decide

section

variable {n : Nat} {u : ByteUnit} (h : u.IsShownFor n) (hn : n ≤ maxNat64)
include h hn

theorem formatBytes_of_isShownFor :
    formatBytes n =
      String.ofList (Decimal.thousandthsText (shownUnits n u) ++ ' ' :: u.name.toList) := by
  unfold formatBytes
  rw [h.exceededUnit?, ← scaledText_eq h.1 hn]

theorem parseBytesOrZero_of_isShownFor :
    parseBytesOrZero (formatBytes n) = min maxNat64 (readBytes (shownUnits n u) u) := by
  have hhigh := (shownUnits_bounds h.1 hn).2
  obtain ⟨hfirst, hlast⟩ := Decimal.thousandthsText_ends (shownUnits n u)
  have htext : (formatBytes n).toList =
      Decimal.thousandthsText (shownUnits n u) ++ ' ' :: u.name.toList := by
    rw [formatBytes_of_isShownFor h hn, String.toList_ofList]
  have hparse := parseBytes_unit htext hfirst hlast (readScaledCount?_thousandthsText u hhigh)
  unfold parseBytesOrZero
  rw [hparse]

end

theorem parseBytesOrZero_of_le {n : Nat} (h : n ≤ 1024) : parseBytesOrZero (formatBytes n) = n := by
  obtain ⟨p, hparse, hexact, -, -⟩ :=
    exists_parseBytes_formatBytes (n := n) (h.trans (by decide))
  unfold parseBytesOrZero
  rw [hparse]
  exact hexact h

/-! ### Order -/

theorem shownUnits_mono {a b : Nat} (u : ByteUnit) (h : a ≤ b) : shownUnits a u ≤ shownUnits b u := by
  have hcast : (a : ℚ) ≤ b := by exact_mod_cast h
  have hnear := Binary64.near_mono (Nat.cast_nonneg a) hcast
  have hquot := div_le_div_of_nonneg_right hnear u.size_pos.le
  apply roundRat_mono
  · exact mul_nonneg (div_nonneg (Binary64.near_nonneg _) u.size_pos.le) (by norm_num)
  · exact mul_le_mul_of_nonneg_right hquot (by norm_num)

theorem readBytes_mono {a b : Nat} (u : ByteUnit) (h : a ≤ b) : readBytes a u ≤ readBytes b u := by
  have hcast : (a : ℚ) / 1000 ≤ b / 1000 := by
    apply div_le_div_of_nonneg_right _ (by norm_num)
    exact_mod_cast h
  have hnear := Binary64.near_mono (div_nonneg (Nat.cast_nonneg a) (by norm_num)) hcast
  apply roundRat_mono
  · exact mul_nonneg (Binary64.near_nonneg _) u.size_pos.le
  · exact mul_le_mul_of_nonneg_right hnear u.size_pos.le

/-- Whole units are shown as they are. -/
theorem shownUnits_mul_size {k : Nat} (u : ByteUnit) (hk : k < pow2 53) :
    shownUnits (k * u.size) u = 1000 * k := by
  have hsame : Binary64.near (k * u.size : Nat) / u.size * 1000 = (1000 * k : Nat) := by
    rw [Nat.cast_mul, near_mul_size u hk, mul_div_cancel_right₀ _ u.size_pos.ne', Nat.cast_mul,
      mul_comm]
    norm_num
  unfold shownUnits
  rw [hsame, roundRat_natCast]

/-- Whole units are read as they are. -/
theorem readBytes_thousand_mul {k : Nat} (u : ByteUnit) (hk : k < pow2 53) :
    readBytes (1000 * k) u = k * u.size := by
  have hsame : Binary64.near ((1000 * k : Nat) / 1000) * u.size = (k * u.size : Nat) := by
    rw [Nat.cast_mul, Nat.cast_ofNat, mul_div_cancel_left₀ _ (by norm_num), Binary64.near_natCast hk,
      Nat.cast_mul]
  unfold readBytes
  rw [hsame, roundRat_natCast]

/-- What is read back lies between the unit and, but for the largest one, the next unit. -/
theorem readBytes_shownUnits_bounds {n : Nat} {u : ByteUnit} (h : u.IsShownFor n)
    (hn : n ≤ maxNat64) :
    u.size ≤ readBytes (shownUnits n u) u ∧
      (u ≠ .gib → readBytes (shownUnits n u) u ≤ 1024 * u.size) ∧
      readBytes (shownUnits n u) u ≤ pow2 64 := by
  have hupto : ∀ k, k < pow2 53 → n ≤ k * u.size →
      readBytes (shownUnits n u) u ≤ k * u.size := by
    intro k hk hle
    have hshown := shownUnits_mono u hle
    rw [shownUnits_mul_size u hk] at hshown
    have hread := readBytes_mono u hshown
    rwa [readBytes_thousand_mul u hk] at hread
  refine ⟨?_, ?_, ?_⟩
  · have hread := readBytes_mono u (shownUnits_bounds h.1 hn).1
    have hone := readBytes_thousand_mul u (k := 1) (by decide)
    rw [Nat.mul_one, Nat.one_mul] at hone
    rwa [hone] at hread
  · intro hne
    exact hupto 1024 (by decide) (h.2.resolve_left hne)
  · -- in the largest unit there are at most `2^34`, and the others end far below
    rcases h.2 with rfl | hle
    · exact hupto (pow2 34) (by decide) (hn.trans (by decide))
    · have hsize := u.size_bounds.2
      have hread := hupto 1024 (by decide) hle
      have hpow : pow2 64 = 18446744073709551616 := rfl
      omega

/-- Reading the display texts of two counts back keeps their order, also across units and up to the
    greatest count of 64 bits. -/
theorem parseBytesOrZero_formatBytes_mono {a b : Nat} (hab : a ≤ b) (hb : b ≤ maxNat64) :
    parseBytesOrZero (formatBytes a) ≤ parseBytesOrZero (formatBytes b) := by
  have ha := hab.trans hb
  have hmax : maxNat64 = 18446744073709551615 := rfl
  by_cases hbsmall : b ≤ 1024
  · rw [parseBytesOrZero_of_le hbsmall, parseBytesOrZero_of_le (hab.trans hbsmall)]
    exact hab
  obtain ⟨v, hv⟩ := exists_isShownFor (show 1024 < b by omega)
  have hvbounds := readBytes_shownUnits_bounds hv hb
  have hvsize := v.size_bounds
  rw [parseBytesOrZero_of_isShownFor hv hb]
  by_cases hasmall : a ≤ 1024
  · rw [parseBytesOrZero_of_le hasmall]
    omega
  obtain ⟨u, hu⟩ := exists_isShownFor (show 1024 < a by omega)
  have hubounds := readBytes_shownUnits_bounds hu ha
  rw [parseBytesOrZero_of_isShownFor hu ha]
  rcases u.size_lt_cases v with rfl | ⟨hlt, hne⟩ | ⟨hlt, hne⟩
  · -- in one unit every rounding on the way keeps the order
    have hread := readBytes_mono u (shownUnits_mono u hab)
    omega
  · -- the smaller unit ends where the larger one starts
    have hread := hubounds.2.1 hne
    omega
  · -- the smaller count has no larger unit
    have hle := hv.2.resolve_left hne
    have hlow := hu.1
    omega

theorem parseBytesOrZero_formatBytes_mono_mebibyte :
    1048576 ≤ maxNat64 ∧ maxNat64 ≤ maxNat64 ∧
      parseBytesOrZero (formatBytes 1048576) ≤ parseBytesOrZero (formatBytes maxNat64) :=
  ⟨by decide, by decide, parseBytesOrZero_formatBytes_mono (by decide) (by decide)⟩

/-! ### Writing again -/

theorem shownUnits_eq_of_abs_sub_lt {n units : Nat} {u : ByteUnit}
    (h : |Binary64.near n - units / 1000 * u.size| < u.size / 2000) : shownUnits n u = units := by
  have hpos := u.size_pos
  apply roundRat_eq_of_abs_sub_lt
  · exact mul_nonneg (div_nonneg (Binary64.near_nonneg _) hpos.le) (by norm_num)
  · have hsplit : Binary64.near n / u.size * 1000 - units =
        (Binary64.near n - units / 1000 * u.size) * (1000 / u.size) := by
      field_simp
    have hscale : (0 : ℚ) < 1000 / u.size := div_pos (by norm_num) hpos
    rw [hsplit, abs_mul, abs_of_pos hscale]
    calc _ < (u.size : ℚ) / 2000 * (1000 / u.size) := mul_lt_mul_of_pos_right h hscale
      _ = 1 / 2 := by
        field_simp
        norm_num

/-- The bytes that are read from thousandths of a unit show these thousandths again: half a byte is
    less than half a thousandth even of the smallest unit. -/
theorem shownUnits_readBytes {units p : Nat} {u : ByteUnit} (hlow : 1000 ≤ units)
    (hhigh : units ≤ 1000 * pow2 64) (hsmall : u ≠ .gib → readBytes units u ≤ 1073741824)
    (hread : readBytes units u ≤ pow2 64) (hp : p = min maxNat64 (readBytes units u))
    (hpos : 0 < p) : shownUnits p u = units := by
  have hmax : maxNat64 = 18446744073709551615 := rfl
  have hpow : pow2 64 = 18446744073709551616 := rfl
  have hpmax : p ≤ maxNat64 := by omega
  obtain ⟨hnearLow, hnearHigh⟩ := abs_le.mp
    (Binary64.abs_near_sub_le (isModerate_of_le_maxNat64 hpos hpmax))
  obtain ⟨hbytesLow, hbytesHigh⟩ := abs_le.mp (abs_readBytes_sub_le u hlow hhigh)
  have hunits : (0 : ℚ) ≤ units / 1000 * u.size :=
    mul_nonneg (div_nonneg (Nat.cast_nonneg _) (by norm_num)) u.size_pos.le
  apply shownUnits_eq_of_abs_sub_lt
  rw [abs_lt]
  by_cases hgib : u = .gib
  · -- the unit is so large that even cutting off at the end of the range does not matter
    have hsize : (u.size : ℚ) = 1073741824 := by
      rw [hgib]
      exact_mod_cast (rfl : ByteUnit.gib.size = 1073741824)
    have hpLow : (readBytes units u : ℚ) ≤ p + 1 := by
      exact_mod_cast (show readBytes units u ≤ p + 1 by omega)
    have hpHigh : (p : ℚ) ≤ readBytes units u := by
      exact_mod_cast (show p ≤ readBytes units u by omega)
    have hbound : (readBytes units u : ℚ) ≤ 18446744073709551616 := by
      exact_mod_cast (show readBytes units u ≤ 18446744073709551616 by omega)
    norm_num at hnearLow hnearHigh hbytesLow hbytesHigh
    constructor <;> linarith
  · have hsame : p = readBytes units u := by
      have := hsmall hgib
      omega
    have hbound : (readBytes units u : ℚ) ≤ 1073741824 := by exact_mod_cast hsmall hgib
    have hsize : (1024 : ℚ) ≤ u.size := by exact_mod_cast u.size_bounds.1
    rw [hsame] at hnearLow hnearHigh ⊢
    norm_num at hnearLow hnearHigh hbytesLow hbytesHigh
    constructor <;> linarith

/-- A thousandth more than the unit is read as more than the unit. -/
theorem size_lt_readBytes {units : Nat} (u : ByteUnit) (hlow : 1001 ≤ units) :
    u.size < readBytes units u := by
  have hsize : (1024 : ℚ) ≤ u.size := by exact_mod_cast u.size_bounds.1
  have hmono := readBytes_mono u hlow
  obtain ⟨hreadLow, -⟩ := abs_le.mp
    (abs_readBytes_sub_le u (show 1000 ≤ 1001 by decide) (by decide))
  have hcast : (u.size : ℚ) < readBytes 1001 u := by
    norm_num at hreadLow
    have hsizeHigh : (u.size : ℚ) ≤ 1073741824 := by exact_mod_cast u.size_bounds.2
    linarith
  have hnat : u.size < readBytes 1001 u := by exact_mod_cast hcast
  omega

/-- The smallest count in `kiB` is a thousandth more than the unit. -/
theorem lt_shownUnits_kib {n : Nat} (h : ByteUnit.kib.size < n) :
    1001 ≤ shownUnits n .kib := by
  have hmono := shownUnits_mono .kib h
  have hleast : shownUnits 1025 .kib = 1001 := by
    apply shownUnits_eq_of_abs_sub_lt
    have hnear : Binary64.near (1025 : Nat) = (1025 : Nat) := Binary64.near_natCast (by decide)
    have hsize : (ByteUnit.kib.size : ℚ) = 1024 := by
      exact_mod_cast (rfl : ByteUnit.kib.size = 1024)
    rw [hnear, hsize]
    norm_num
  have hsucc : ByteUnit.kib.size + 1 = 1025 := rfl
  rw [← hleast, ← hsucc]
  exact hmono

/-- A count that shows more than its unit is written again as it was. -/
theorem formatBytes_parseBytesOrZero_of_lt {n : Nat} {u : ByteUnit} (h : u.IsShownFor n)
    (hn : n ≤ maxNat64) (hunits : 1001 ≤ shownUnits n u) :
    formatBytes (parseBytesOrZero (formatBytes n)) = formatBytes n := by
  obtain ⟨hlow, hhigh⟩ := shownUnits_bounds h.1 hn
  obtain ⟨-, hnext, hread⟩ := readBytes_shownUnits_bounds h hn
  have hgreater := size_lt_readBytes u hunits
  have hsize := u.size_bounds
  have hmax : maxNat64 = 18446744073709551615 := rfl
  rw [parseBytesOrZero_of_isShownFor h hn]
  generalize hp : min maxNat64 (readBytes (shownUnits n u) u) = p
  have hpn : p ≤ maxNat64 := by omega
  have hshown : u.IsShownFor p := by
    refine ⟨by omega, ?_⟩
    by_cases hgib : u = .gib
    · exact .inl hgib
    · have := hnext hgib
      exact .inr (by omega)
  have hsmall : u ≠ .gib → readBytes (shownUnits n u) u ≤ 1073741824 := by
    intro hgib
    have hle := hnext hgib
    cases u with
    | gib => exact absurd rfl hgib
    | mib => exact hle
    | kib => exact hle.trans (by decide)
  have hsame := shownUnits_readBytes hlow hhigh hsmall hread hp.symm (by omega)
  rw [formatBytes_of_isShownFor hshown hpn, formatBytes_of_isShownFor h hn, hsame]

/-- A count that shows no more than its unit is shown as one `MiB` or one `GiB`. -/
theorem formatBytes_of_shownUnits_le {n : Nat} {u : ByteUnit} (h : u.IsShownFor n)
    (hn : n ≤ maxNat64) (hunits : shownUnits n u ≤ 1000) :
    formatBytes n = "1 MiB" ∨ formatBytes n = "1 GiB" := by
  have hone : shownUnits n u = 1000 := by
    have := (shownUnits_bounds h.1 hn).1
    omega
  have htext : Decimal.thousandthsText 1000 = ['1'] := by decide
  rw [formatBytes_of_isShownFor h hn, hone, htext]
  cases u with
  | gib => exact .inr (by decide)
  | mib => exact .inl (by decide)
  | kib =>
    have hmore := lt_shownUnits_kib h.1
    omega

/-- The text of a count is written again as it was, but for one `MiB` and one `GiB`: these read as
    the unit itself, which is shown in the next smaller unit. -/
theorem formatBytes_parseBytesOrZero_formatBytes {n : Nat} (hn : n ≤ maxNat64) :
    formatBytes (parseBytesOrZero (formatBytes n)) =
      if formatBytes n = "1 MiB" then "1024 kiB"
      else if formatBytes n = "1 GiB" then "1024 MiB"
      else formatBytes n := by
  have hmebibyte : formatBytes (parseBytesOrZero "1 MiB") = "1024 kiB" := by decide
  have hgibibyte : formatBytes (parseBytesOrZero "1 GiB") = "1024 MiB" := by decide
  by_cases hmib : formatBytes n = "1 MiB"
  · rw [if_pos hmib, hmib, hmebibyte]
  by_cases hgib : formatBytes n = "1 GiB"
  · rw [if_neg hmib, if_pos hgib, hgib, hgibibyte]
  rw [if_neg hmib, if_neg hgib]
  by_cases hsmall : n ≤ 1024
  · rw [parseBytesOrZero_of_le hsmall]
  obtain ⟨u, hu⟩ := exists_isShownFor (show 1024 < n by omega)
  have hunits : 1001 ≤ shownUnits n u := by
    by_contra hle
    rcases formatBytes_of_shownUnits_le hu hn (by omega) with htext | htext
    · exact hmib htext
    · exact hgib htext
  exact formatBytes_parseBytesOrZero_of_lt hu hn hunits

/-- Both exceptions occur, one byte above the unit. -/
theorem formatBytes_parseBytesOrZero_exceptions :
    (1048577 ≤ maxNat64 ∧ formatBytes 1048577 = "1 MiB" ∧
        formatBytes (parseBytesOrZero (formatBytes 1048577)) = "1024 kiB") ∧
      1073741825 ≤ maxNat64 ∧ formatBytes 1073741825 = "1 GiB" ∧
        formatBytes (parseBytesOrZero (formatBytes 1073741825)) = "1024 MiB" := by
  have hmax : 1048577 ≤ maxNat64 ∧ 1073741825 ≤ maxNat64 := by decide
  have hmib : formatBytes 1048577 = "1 MiB" := by decide
  have hgib : formatBytes 1073741825 = "1 GiB" := by decide
  have hmib' := formatBytes_parseBytesOrZero_formatBytes hmax.1
  have hgib' := formatBytes_parseBytesOrZero_formatBytes hmax.2
  rw [if_pos hmib] at hmib'
  rw [if_neg (by rw [hgib]; decide), if_pos hgib] at hgib'
  exact ⟨⟨hmax.1, hmib, hmib'⟩, hmax.2, hgib, hgib'⟩

end NodeReport

import NodeReport.Proofs.Number.Literal
import NodeReport.Proofs.Text.Basic

/-! # Fixed places read back

  Digits with three places, of which zeros at the end and a bare point are left out, still write
  the same number.
-/

namespace NodeReport

namespace Decimal

open Text (dropRightWhile)

/-- Zeros at the end and a bare point left out. -/
def withoutZeros (ds : List Char) : List Char :=
  dropRightWhile (· == '.') (dropRightWhile (· == '0') ds)

theorem dropRightWhile_point_of_isDigit {ds : List Char} (hds : ∀ c ∈ ds, c.isDigit = true) :
    dropRightWhile (· == '.') ds = ds := by
  rcases List.eq_nil_or_concat ds with rfl | ⟨front, c, rfl⟩
  · rfl
  · rw [List.concat_eq_append] at hds ⊢
    have hc := hds c (by simp)
    apply Text.dropRightWhile_concat
    rw [beq_eq_false_iff_ne]
    rintro rfl
    exact absurd hc (by decide)

/-- Either the places are all zeros and go with the point, or some places are left. -/
theorem withoutZeros_point {whole places : List Char} (hwhole : ∀ c ∈ whole, c.isDigit = true)
    (hplaces : ∀ c ∈ places, c.isDigit = true) :
    ∃ kept k, places = kept ++ List.replicate k '0' ∧
      (kept = [] ∧ withoutZeros (whole ++ '.' :: places) = whole ∨
        kept ≠ [] ∧ withoutZeros (whole ++ '.' :: places) = whole ++ '.' :: kept) := by
  obtain ⟨zeros, hzeros, hsplit⟩ := Text.exists_dropRightWhile_append (· == '0') places
  have hreplicate : zeros = List.replicate zeros.length '0' :=
    List.eq_replicate_of_mem fun c hc => by simpa using hzeros c hc
  generalize hkept : dropRightWhile (· == '0') places = kept at hsplit
  refine ⟨kept, zeros.length, by rw [← hreplicate]; exact hsplit, ?_⟩
  have hcons : whole ++ '.' :: places = (whole ++ ['.']) ++ places := by simp
  unfold withoutZeros
  rw [hcons]
  by_cases hnil : kept = []
  · -- only zeros: they go, and then the point
    left
    refine ⟨hnil, ?_⟩
    rw [hsplit, hnil, List.nil_append, Text.dropRightWhile_append_of_all hzeros,
      Text.dropRightWhile_concat (by decide), Text.dropRightWhile_append_of_all (by simp)]
    exact dropRightWhile_point_of_isDigit hwhole
  · -- the last place that is kept is no zero and no point
    right
    refine ⟨hnil, ?_⟩
    have hdigits : ∀ c ∈ kept, c.isDigit = true := by
      intro c hc
      exact hplaces c (by rw [hsplit]; exact List.mem_append_left _ hc)
    rw [Text.dropRightWhile_append _ (by rw [hkept]; exact hnil), hkept]
    rw [Text.dropRightWhile_append _ (by rw [dropRightWhile_point_of_isDigit hdigits]; exact hnil),
      dropRightWhile_point_of_isDigit hdigits]
    simp

/-- A number of thousandths with its places, without zeros at the end. -/
def thousandthsText (units : Nat) : List Char :=
  withoutZeros (decimalDigits (units / pow10 3) ++ '.' :: paddedDigits 3 (units % pow10 3))

/-- The text is digits with at most one point, and these digits write the number. -/
theorem exists_thousandthsText_eq (units : Nat) :
    ∃ places k, (∀ c ∈ places, c.isDigit = true) ∧ places.length + k = 3 ∧
      pow10 k * digitsValue (decimalDigits (units / pow10 3) ++ places) = units ∧
      (places = [] ∧ thousandthsText units = decimalDigits (units / pow10 3) ∨
        places ≠ [] ∧
          thousandthsText units = decimalDigits (units / pow10 3) ++ '.' :: places) := by
  have hpadded : ∀ c ∈ paddedDigits 3 (units % pow10 3), c.isDigit = true :=
    fun c hc => isDigit_of_mem_paddedDigits hc
  have hlength : (paddedDigits 3 (units % pow10 3)).length = 3 :=
    length_paddedDigits (by decide) (Nat.mod_lt _ (by decide))
  obtain ⟨places, k, hplaces, htext⟩ :=
    withoutZeros_point (fun c hc => isDigit_of_mem_decimalDigits hc) hpadded
  refine ⟨places, k, ?_, ?_, ?_, htext⟩
  · intro c hc
    exact hpadded c (by rw [hplaces]; exact List.mem_append_left _ hc)
  · rw [hplaces, List.length_append, List.length_replicate] at hlength
    exact hlength
  · -- all places together write the number, and the zeros among them only scale it
    have hvalue : digitsValue (decimalDigits (units / pow10 3) ++
        paddedDigits 3 (units % pow10 3)) = units := by
      rw [digitsValue_append, hlength, digitsValue_decimalDigits, digitsValue_paddedDigits]
      exact Nat.div_add_mod units (pow10 3)
    rw [hplaces, ← List.append_assoc, digitsValue_append, List.length_replicate,
      digitsValue_replicate_zero] at hvalue
    exact hvalue

/-- The text starts with a digit and ends in one. -/
theorem thousandthsText_ends (units : Nat) :
    (∃ c cs, thousandthsText units = c :: cs ∧ c.isDigit = true) ∧
      ∃ cs c, thousandthsText units = cs ++ [c] ∧ c.isDigit = true := by
  obtain ⟨places, k, hplaces, -, -, htext⟩ := exists_thousandthsText_eq units
  have hwhole : ∀ c ∈ decimalDigits (units / pow10 3), c.isDigit = true :=
    fun c hc => isDigit_of_mem_decimalDigits hc
  obtain ⟨c, cs, hcons⟩ := List.exists_cons_of_ne_nil (decimalDigits_ne_nil (units / pow10 3))
  have hfirst : c.isDigit = true := hwhole c (by simp [hcons])
  -- without places both ends are those of the whole part
  rcases htext with ⟨-, htext⟩ | ⟨hne, htext⟩
  · rw [htext]
    refine ⟨⟨c, cs, hcons, hfirst⟩, ?_⟩
    obtain ⟨front, d, hconcat⟩ :=
      (List.eq_nil_or_concat _).resolve_left (decimalDigits_ne_nil (units / pow10 3))
    rw [List.concat_eq_append] at hconcat
    exact ⟨front, d, hconcat, hwhole d (by simp [hconcat])⟩
  · rw [htext]
    refine ⟨⟨c, _, by rw [hcons, List.cons_append], hfirst⟩, ?_⟩
    obtain ⟨front, d, hconcat⟩ := (List.eq_nil_or_concat _).resolve_left hne
    rw [List.concat_eq_append] at hconcat
    refine ⟨decimalDigits (units / pow10 3) ++ '.' :: front, d, ?_, hplaces d (by simp [hconcat])⟩
    rw [hconcat]
    simp

end Decimal

/-! ### Reading -/

/-- The text of thousandths writes their number exactly. -/
theorem exists_writes_thousandthsText (units : Nat) :
    ∃ d : DecimalNumber, d.Writes (Decimal.thousandthsText units) ∧ d.negative = false ∧
      d.magnitude = units / 1000 := by
  obtain ⟨places, k, hplaces, hlength, hvalue, htext⟩ := Decimal.exists_thousandthsText_eq units
  have hwhole : ∀ c ∈ decimalDigits (units / pow10 3), c.isDigit = true :=
    fun c hc => isDigit_of_mem_decimalDigits hc
  obtain ⟨fraction, hfraction, htext⟩ : ∃ fraction, DecimalNumber.IsFraction fraction places ∧
      Decimal.thousandthsText units = decimalDigits (units / pow10 3) ++ (fraction ++ []) := by
    rcases htext with ⟨rfl, htext⟩ | ⟨-, htext⟩
    · exact ⟨[], .none, by rw [htext]; simp⟩
    · exact ⟨'.' :: places, .point hplaces, by rw [htext]; simp⟩
  have hne : decimalDigits (units / pow10 3) ++ places ≠ [] :=
    List.append_ne_nil_of_left_ne_nil (decimalDigits_ne_nil _) _
  have hwrites := DecimalNumber.Writes.intro .none
    (DecimalNumber.WritesUnsigned.intro hwhole hfraction hne .none)
  rw [List.nil_append, ← htext] at hwrites
  refine ⟨_, hwrites, rfl, ?_⟩
  -- `k` zeros were left out, which are thousandths without them
  have hthree : (1000 : ℚ) = 10 ^ (places.length : Int) * 10 ^ (k : Int) := by
    rw [← zpow_add₀ (by norm_num), ← Nat.cast_add, hlength]
    norm_num
  have hunits : (units : ℚ) =
      10 ^ (k : Int) * digitsValue (decimalDigits (units / pow10 3) ++ places) := by
    rw [← DecimalNumber.cast_pow10, ← Nat.cast_mul, hvalue]
  unfold DecimalNumber.magnitude
  rw [hthree, hunits, zero_sub, zpow_neg]
  field_simp

end NodeReport

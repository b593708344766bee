import NodeReport.Proofs.ByteCount.Number
import NodeReport.Proofs.Number.FixedPlaces

/-! # Byte counts read back from their texts

  A text without a unit is read back exactly. A text with a unit has lost what lies below its third
  place, and is read back within one thousandth: half a place of the unit is at most one part in
  two thousand, and rounding to whole bytes takes at most half a byte of more than 1024.
-/

namespace NodeReport

/-! ### Units -/

namespace ByteUnit

/-- Every unit is written with three letters, of which only the first tells it. -/
theorem exists_name_eq (u : ByteUnit) : ∃ c, u.name.toList = [c, 'i', 'B'] := by
  cases u
  · exact ⟨'G', rfl⟩
  · exact ⟨'M', rfl⟩
  · exact ⟨'k', rfl⟩

theorem ofName?_name (u : ByteUnit) : ofName? u.name.toList = some u := by
  cases u <;> decide

end ByteUnit

theorem exceededUnit?_of_le {n : Nat} (h : n ≤ 1024) : exceededUnit? n = none := by
  unfold exceededUnit?
  rw [List.find?_eq_none]
  intro u _
  have hsize := u.size_bounds.1
  simp only [decide_eq_true_iff]
  omega

theorem exists_exceededUnit? {n : Nat} (h : 1024 < n) :
    ∃ u, exceededUnit? n = some u ∧ u.size < n := by
  have hsome : (exceededUnit? n).isSome = true := by
    unfold exceededUnit?
    rw [List.find?_isSome]
    exact ⟨.kib, by decide, decide_eq_true h⟩
  obtain ⟨u, hu⟩ := Option.isSome_iff_exists.mp hsome
  refine ⟨u, hu, ?_⟩
  unfold exceededUnit? at hu
  simpa using List.find?_some hu

/-! ### Writing and reading a count in a unit -/

/-- Thousandths of a unit that are shown for a count. -/
def shownUnits (n : Nat) (u : ByteUnit) : Nat :=
  roundRat .toEven (Binary64.near n / u.size * 1000)

/-- Bytes that are read from thousandths of a unit. -/
def readBytes (units : Nat) (u : ByteUnit) : Nat :=
  roundRat .up (Binary64.near (units / 1000) * u.size)

theorem near_mul_size {k : Nat} (u : ByteUnit) (hk : k < pow2 53) :
    Binary64.near (k * u.size) = k * u.size := by
  rw [u.size_eq_zpow]
  exact Binary64.near_magnitude hk (by omega)

theorem one_le_near_div_size {n : Nat} {u : ByteUnit} (hlow : u.size < n) :
    1 ≤ Binary64.near n / u.size := by
  have hmono := Binary64.near_mono u.size_pos.le (show (u.size : ℚ) ≤ n by exact_mod_cast hlow.le)
  have hsame := near_mul_size u (k := 1) (by decide)
  rw [Nat.cast_one, one_mul] at hsame
  rwa [hsame, ← one_le_div u.size_pos] at hmono

/-- The greatest count of 64 bits is rounded up to a number of the format, and no count beyond. -/
theorem near_le_of_le_maxNat64 {n : Nat} (hn : n ≤ maxNat64) :
    Binary64.near n ≤ 2 ^ (64 : Int) := by
  have hcast : (n : ℚ) ≤ 18446744073709551615 := by exact_mod_cast hn
  rw [← Binary64.near_two_zpow (k := 64) (by decide)]
  exact Binary64.near_mono (Nat.cast_nonneg n) (hcast.trans (by norm_num))

theorem near_div_size_le {n : Nat} (u : ByteUnit) (hn : n ≤ maxNat64) :
    Binary64.near n / u.size ≤ 2 ^ (64 : Int) :=
  (div_le_self (Binary64.near_nonneg n) u.one_le_size).trans (near_le_of_le_maxNat64 hn)

theorem isModerate_of_le_maxNat64 {n : Nat} (hpos : 0 < n) (hn : n ≤ maxNat64) :
    Binary64.IsModerate n := by
  have hlow : (1 : ℚ) ≤ n := by exact_mod_cast hpos
  have hhigh : (n : ℚ) ≤ 18446744073709551615 := by exact_mod_cast hn
  exact Binary64.isModerate_of_bounds (by linarith) (by linarith)

/-- The text of a count in a unit is that of its thousandths. -/
theorem scaledText_eq {n : Nat} {u : ByteUnit} (hlow : u.size < n) (hn : n ≤ maxNat64) :
    scaledText n u = Decimal.thousandthsText (shownUnits n u) := by
  obtain ⟨m, e, hm, hofNat, hvalue⟩ :=
    Binary64.ofNat_of_isModerate (isModerate_of_le_maxNat64 (by omega) hn)
  have hquot : Binary64.magnitude m e * 2 ^ (-u.power : Int) = Binary64.near n / u.size := by
    rw [hvalue, zpow_neg, ← u.size_eq_zpow, div_eq_mul_inv]
  have hmoderate : Binary64.IsModerate (Binary64.magnitude m e * 2 ^ (-u.power : Int)) := by
    have hone := one_le_near_div_size hlow
    have hlarge := near_div_size_le u hn
    norm_num at hlarge
    rw [hquot]
    exact Binary64.isModerate_of_bounds (by linarith) (by linarith)
  obtain ⟨m', e', hm', hscale, hvalue'⟩ := Binary64.scale_of_isModerate false hm hmoderate
  have hunits : roundDiv .toEven (Binary64.numerator m' e' * pow10 3) (Binary64.denominator e') =
      shownUnits n u := by
    rw [roundDiv_eq_roundRat _ _ (Binary64.denominator_pos e'), Nat.cast_mul, mul_div_right_comm,
      Binary64.numerator_div_denominator, hvalue', hquot]
    rfl
  unfold scaledText
  rw [hofNat, hscale, ← hunits]
  rfl

/-- The thousandths that are shown make up at least one unit and stay within `2^64` units. -/
theorem shownUnits_bounds {n : Nat} {u : ByteUnit} (hlow : u.size < n) (hn : n ≤ maxNat64) :
    1000 ≤ shownUnits n u ∧ shownUnits n u ≤ 1000 * pow2 64 := by
  have hone := one_le_near_div_size hlow
  have hlarge := near_div_size_le u hn
  unfold shownUnits
  constructor
  · have hmono := roundRat_mono .toEven (Nat.cast_nonneg 1000)
      (show ((1000 : Nat) : ℚ) ≤ Binary64.near n / u.size * 1000 by norm_num; linarith)
    rwa [roundRat_natCast] at hmono
  · have hmono := roundRat_mono .toEven (by linarith)
      (show Binary64.near n / u.size * 1000 ≤ (1000 * pow2 64 : Nat) by
        norm_num at hlarge ⊢
        linarith)
    rwa [roundRat_natCast] at hmono

/-- Reading thousandths of a unit gives their bytes, up to the greatest count of 64 bits. -/
theorem readScaledCount?_thousandthsText {units : Nat} (u : ByteUnit)
    (hhigh : units ≤ 1000 * pow2 64) :
    readScaledCount? u (Decimal.thousandthsText units) =
      some (min maxNat64 (readBytes units u)) := by
  obtain ⟨d, hwrites, hsign, hvalue⟩ := exists_writes_thousandthsText units
  have hsame : d.readValue = Binary64.near (units / 1000) := by
    unfold DecimalNumber.readValue
    rw [hsign, hvalue]
    rfl
  have hrange : Binary64.near d.magnitude < 2 ^ (1024 : Int) := by
    have hnat : units ≤ 18446744073709551616000 := hhigh
    have hcast : (units : ℚ) ≤ 18446744073709551616000 := by exact_mod_cast hnat
    rw [hvalue]
    calc Binary64.near (units / 1000) ≤ Binary64.near (2 ^ (64 : Int)) :=
          Binary64.near_mono (div_nonneg (Nat.cast_nonneg _) (by norm_num)) (by norm_num; linarith)
      _ = 2 ^ (64 : Int) := Binary64.near_two_zpow (by decide)
      _ < 2 ^ (1024 : Int) := zpow_lt_zpow_right₀ (by norm_num) (by decide)
  have hreads := ReadsAs.intro hwrites hrange
  rw [hsame] at hreads
  rw [readScaledCount?_of_readsAs u hreads (Binary64.near_nonneg _), roundedCount,
    toNat_round (mul_nonneg (Binary64.near_nonneg _) u.size_pos.le)]
  rfl

/-! ### Losses -/

/-- What is shown is off by half of the third place, and by less for the rounding of the count. -/
theorem abs_shownUnits_sub_le {n : Nat} {u : ByteUnit} (hlow : u.size < n) (hn : n ≤ maxNat64) :
    |(shownUnits n u : ℚ) / 1000 * u.size - n| ≤ u.size / 2000 + n / 2 ^ (53 : Int) := by
  have hone := one_le_near_div_size hlow
  have hround := abs_roundRat_sub_le .toEven
    (show 0 ≤ Binary64.near n / u.size * 1000 by linarith)
  have hnear := Binary64.abs_near_sub_le (isModerate_of_le_maxNat64 (by omega) hn)
  have hpos := u.size_pos
  have hsplit : (shownUnits n u : ℚ) / 1000 * u.size - n =
      (shownUnits n u - Binary64.near n / u.size * 1000) * (u.size / 1000) +
        (Binary64.near n - n) := by
    field_simp
    ring
  have hscaled : |(shownUnits n u - Binary64.near n / u.size * 1000) * ((u.size : ℚ) / 1000)| ≤
      1 / 2 * (u.size / 1000) := by
    rw [abs_mul, abs_of_pos (show (0 : ℚ) < u.size / 1000 by linarith)]
    exact mul_le_mul_of_nonneg_right hround (by linarith)
  rw [hsplit]
  calc _ ≤ 1 / 2 * ((u.size : ℚ) / 1000) + n / 2 ^ (53 : Int) :=
        (abs_add_le _ _).trans (add_le_add hscaled hnear)
    _ = u.size / 2000 + n / 2 ^ (53 : Int) := by ring

/-- What is read is off by half a byte, and by less for the rounding of the thousandths. -/
theorem abs_readBytes_sub_le {units : Nat} (u : ByteUnit) (hlow : 1000 ≤ units)
    (hhigh : units ≤ 1000 * pow2 64) :
    |(readBytes units u : ℚ) - units / 1000 * u.size| ≤
      1 / 2 + units / 1000 * u.size / 2 ^ (53 : Int) := by
  have hunitsLow : (1000 : ℚ) ≤ units := by exact_mod_cast hlow
  have hnat : units ≤ 18446744073709551616000 := hhigh
  have hunitsHigh : (units : ℚ) ≤ 18446744073709551616000 := by exact_mod_cast hnat
  have hround := abs_roundRat_sub_le .up
    (mul_nonneg (Binary64.near_nonneg (units / 1000)) u.size_pos.le)
  have hnear := Binary64.abs_near_sub_le
    (Binary64.isModerate_of_bounds (q := units / 1000) (by linarith) (by linarith))
  have hsplit : (readBytes units u : ℚ) - units / 1000 * u.size =
      (readBytes units u - Binary64.near (units / 1000) * u.size) +
        (Binary64.near (units / 1000) - units / 1000) * u.size := by
    ring
  have hscaled : |(Binary64.near (units / 1000) - units / 1000) * (u.size : ℚ)| ≤
      units / 1000 / 2 ^ (53 : Int) * u.size := by
    rw [abs_mul, abs_of_pos u.size_pos]
    exact mul_le_mul_of_nonneg_right hnear u.size_pos.le
  rw [hsplit]
  calc _ ≤ 1 / 2 + (units : ℚ) / 1000 / 2 ^ (53 : Int) * u.size :=
        (abs_add_le _ _).trans (add_le_add hround hscaled)
    _ = 1 / 2 + units / 1000 * u.size / 2 ^ (53 : Int) := by ring

/-- A count in a unit is read back within one thousandth. -/
theorem exists_readScaledCount?_scaledText {n : Nat} {u : ByteUnit} (hlow : u.size < n)
    (hhigh : n ≤ maxNat64) :
    ∃ p, readScaledCount? u (scaledText n u) = some p ∧ 999 * n ≤ 1000 * p ∧
      1000 * p ≤ 1001 * n := by
  obtain ⟨hunitsLow, hunitsHigh⟩ := shownUnits_bounds hlow hhigh
  obtain ⟨hshownLow, hshownHigh⟩ := abs_le.mp (abs_shownUnits_sub_le hlow hhigh)
  obtain ⟨hreadLow, hreadHigh⟩ := abs_le.mp (abs_readBytes_sub_le u hunitsLow hunitsHigh)
  have hsize : (1024 : ℚ) ≤ u.size := by exact_mod_cast u.size_bounds.1
  have hnlow : (u.size : ℚ) + 1 ≤ n := by exact_mod_cast hlow
  refine ⟨min maxNat64 (readBytes (shownUnits n u) u), ?_, ?_⟩
  · rw [scaledText_eq hlow hhigh, readScaledCount?_thousandthsText u hunitsHigh]
  -- cutting off at the end of the range only brings the result nearer to the count
  have hrat : (999 : ℚ) * n ≤ 1000 * readBytes (shownUnits n u) u ∧
      (1000 : ℚ) * readBytes (shownUnits n u) u ≤ 1001 * n := by
    norm_num at hshownLow hshownHigh hreadLow hreadHigh
    constructor <;> linarith
  have hnat : 999 * n ≤ 1000 * readBytes (shownUnits n u) u ∧
      1000 * readBytes (shownUnits n u) u ≤ 1001 * n := by exact_mod_cast hrat
  constructor <;> omega

/-! ### Texts -/

theorem toList_formatBytes_of_le {n : Nat} (h : n ≤ 1024) :
    (formatBytes n).toList = decimalDigits n := by
  unfold formatBytes
  rw [exceededUnit?_of_le h]
  exact String.toList_ofList

theorem exists_toList_formatBytes {n : Nat} (h : 1024 < n) :
    ∃ u, u.size < n ∧ (formatBytes n).toList = scaledText n u ++ ' ' :: u.name.toList := by
  obtain ⟨u, hunit, hsize⟩ := exists_exceededUnit? h
  refine ⟨u, hsize, ?_⟩
  unfold formatBytes
  rw [hunit]
  exact String.toList_ofList

/-- Digits are no blanks, at the end. -/
theorem trimEnd_decimalDigits (n : Nat) : Text.trimEnd (decimalDigits n) = decimalDigits n := by
  apply Text.trimEnd_eq_self
  intro c hc
  exact Text.isBlank_of_isDigit (isDigit_of_mem_decimalDigits (List.mem_of_mem_getLast? hc))

/-- Digits are no blanks, at either end. -/
theorem trim_decimalDigits (n : Nat) : Text.trim (decimalDigits n) = decimalDigits n := by
  obtain ⟨c, cs, hcons⟩ := List.exists_cons_of_ne_nil (decimalDigits_ne_nil n)
  have hc : c ∈ decimalDigits n := by simp [hcons]
  have hstart : Text.trimStart (decimalDigits n) = decimalDigits n := by
    rw [hcons]
    exact Text.trimStart_cons (Text.isBlank_of_isDigit (isDigit_of_mem_decimalDigits hc))
  unfold Text.trim
  rw [hstart, trimEnd_decimalDigits]

/-- Digits do not end like a unit. -/
theorem endsWith_decimalDigits (n : Nat) : Text.endsWith "iB".toList (decimalDigits n) = false := by
  rw [Bool.eq_false_iff]
  intro hends
  obtain ⟨front, hfront⟩ := Text.endsWith_iff.mp hends
  have hmem : 'B' ∈ decimalDigits n := by
    rw [hfront]
    simp
  exact absurd (isDigit_of_mem_decimalDigits hmem) (by decide)

/-- Exactly the counts above 1024 are written with a unit. -/
theorem hasByteUnit_formatBytes (n : Nat) : hasByteUnit (formatBytes n) = decide (1024 < n) := by
  unfold hasByteUnit
  by_cases h : 1024 < n
  · obtain ⟨u, -, htext⟩ := exists_toList_formatBytes h
    obtain ⟨c, hname⟩ := u.exists_name_eq
    rw [htext, hname, decide_eq_true h]
    have hlast : scaledText n u ++ ' ' :: [c, 'i', 'B'] =
        (scaledText n u ++ [' ', c, 'i']) ++ ['B'] := by simp
    rw [hlast, Text.trimEnd_concat (by decide), Text.endsWith_iff]
    exact ⟨scaledText n u ++ [' ', c], by simp⟩
  · rw [toList_formatBytes_of_le (by omega), decide_eq_false h]
    rw [trimEnd_decimalDigits]
    exact endsWith_decimalDigits n

/-- A number in front of a unit is left as it is by trimming, and set apart from the unit by it. -/
theorem trim_unit {cs : List Char} (u : ByteUnit)
    (hfirst : ∃ c rest, cs = c :: rest ∧ c.isDigit = true)
    (hlast : ∃ front c, cs = front ++ [c] ∧ c.isDigit = true) :
    Text.trim (cs ++ ' ' :: u.name.toList) = (cs ++ [' ']) ++ u.name.toList ∧
      Text.trim (cs ++ [' ']) = cs := by
  obtain ⟨first, rest, hcons, hfirst⟩ := hfirst
  obtain ⟨front, last, hconcat, hlast⟩ := hlast
  obtain ⟨c, hname⟩ := u.exists_name_eq
  have hhead : ∀ tail d, (cs ++ tail).head? = some d → Text.isBlank d = false := by
    intro tail d hd
    rw [hcons] at hd
    cases hd
    exact Text.isBlank_of_isDigit hfirst
  constructor
  · rw [List.append_assoc, List.singleton_append]
    apply Text.trim_eq_self (hhead _)
    intro d hd
    rw [hname] at hd
    have hd' : d = 'B' := by simpa using hd.symm
    rw [hd']
    decide
  · apply Text.trim_append_blank (by decide) (by simp [hcons])
    · intro d hd
      exact hhead [] d (by rwa [List.append_nil])
    · intro d hd
      rw [hconcat, List.getLast?_concat] at hd
      cases hd
      exact Text.isBlank_of_isDigit hlast

/-- A text that ends with a unit is read as a count in this unit. -/
theorem parseBytes_of_unit {text : String} {front : List Char} {u : ByteUnit}
    (htrim : Text.trim text.toList = front ++ u.name.toList) :
    parseBytes text =
      (readScaledCount? u (Text.trim front)).elim (.error (.invalidNumber text)) .ok := by
  obtain ⟨c, hname⟩ := u.exists_name_eq
  have hends : Text.endsWith "iB".toList (front ++ u.name.toList) = true := by
    rw [Text.endsWith_iff, hname]
    exact ⟨front ++ [c], by simp⟩
  -- the last three characters are the unit
  have hlength : (front ++ u.name.toList).length - 3 = front.length := by
    rw [List.length_append, hname]
    rfl
  unfold parseBytes
  simp only [htrim]
  rw [if_pos hends, hlength, List.drop_left, List.take_left, u.ofName?_name]
  cases hread : readScaledCount? u (Text.trim front) with
  | some n => simp only [hread, Option.elim_some]
  | none => simp only [hread, Option.elim_none]

/-- A number in front of a unit is read as a count in this unit. -/
theorem parseBytes_unit {text : String} {cs : List Char} {u : ByteUnit}
    (htext : text.toList = cs ++ ' ' :: u.name.toList)
    (hfirst : ∃ c rest, cs = c :: rest ∧ c.isDigit = true)
    (hlast : ∃ front c, cs = front ++ [c] ∧ c.isDigit = true) {n : Nat}
    (hread : readScaledCount? u cs = some n) : parseBytes text = .ok n := by
  obtain ⟨htrim, hnumber⟩ := trim_unit u hfirst hlast
  rw [← htext] at htrim
  rw [parseBytes_of_unit htrim, hnumber, hread, Option.elim_some]

/-- Reading a count back gives it exactly up to 1024, and within one thousandth above. -/
theorem exists_parseBytes_formatBytes {n : Nat} (hn : n ≤ maxNat64) :
    ∃ p, parseBytes (formatBytes n) = .ok p ∧ (n ≤ 1024 → p = n) ∧ 999 * n ≤ 1000 * p ∧
      1000 * p ≤ 1001 * n := by
  by_cases h : 1024 < n
  · obtain ⟨u, hsize, htext⟩ := exists_toList_formatBytes h
    obtain ⟨p, hread, hlow, hhigh⟩ := exists_readScaledCount?_scaledText hsize hn
    obtain ⟨hfirst, hlast⟩ := Decimal.thousandthsText_ends (shownUnits n u)
    rw [← scaledText_eq hsize hn] at hfirst hlast
    exact ⟨p, parseBytes_unit htext hfirst hlast hread, by omega, hlow, hhigh⟩
  · -- digits alone are read as a natural number
    refine ⟨n, ?_, fun _ => rfl, by omega, by omega⟩
    unfold parseBytes
    simp only [toList_formatBytes_of_le (show n ≤ 1024 by omega), trim_decimalDigits,
      endsWith_decimalDigits]
    rw [if_neg (by decide)]
    unfold readPlainCount?
    rw [readNat?_decimalDigits hn]

/-- A display text is read back as the count itself up to 1024, and above within one thousandth of
    it, up to the greatest count of 64 bits. -/
theorem parseBytesOrZero_formatBytes {n : Nat} (hn : n ≤ maxNat64) :
    parseBytes (formatBytes n) = .ok (parseBytesOrZero (formatBytes n)) ∧
      (n ≤ 1024 → parseBytesOrZero (formatBytes n) = n) ∧
      (1024 < n → ((parseBytesOrZero (formatBytes n) : Int) - n).natAbs ≤ n / 1000) := by
  obtain ⟨p, hparse, hexact, hlow, hhigh⟩ := exists_parseBytes_formatBytes hn
  have hread : parseBytesOrZero (formatBytes n) = p := by
    unfold parseBytesOrZero
    rw [hparse]
  rw [hread, hparse]
  refine ⟨rfl, hexact, ?_⟩
  intro _
  -- a whole number is within a quotient of another one if it is within its whole part
  omega

/-- The greatest count, which is rounded up to `2^64` on the way, is read back within one
    thousandth. -/
theorem parseBytesOrZero_formatBytes_maxNat64 :
    maxNat64 ≤ maxNat64 ∧ 1024 < maxNat64 ∧
      parseBytes (formatBytes maxNat64) = .ok (parseBytesOrZero (formatBytes maxNat64)) ∧
      ((parseBytesOrZero (formatBytes maxNat64) : Int) - maxNat64).natAbs ≤ maxNat64 / 1000 := by
  have hlarge : 1024 < maxNat64 := by decide
  obtain ⟨hok, -, hnear⟩ := parseBytesOrZero_formatBytes (Nat.le_refl maxNat64)
  exact ⟨Nat.le_refl maxNat64, hlarge, hok, hnear hlarge⟩

end NodeReport

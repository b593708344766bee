import Mathlib.Data.List.TakeWhile
import NodeReport.Proofs.Number.Nearest
import NodeReport.Proofs.Number.Reading

/-! # The texts of numbers

  A natural number is written as digits after at most one plus sign. A decimal number is written as
  a sign, digits with at most one point among them, and an exponent. The readers take exactly these
  texts, and a decimal number is read as the number of the format nearest to its exact value: the
  short ways for exponents beyond the range change nothing.

  * `readNat?_eq_some_iff`, `DecimalNumber.readUnsigned?_eq_some_iff`: the readers and the grammars;
  * `DecimalNumber.nearest_cases`: a decimal number and the number that it is read as;
  * `readsAs_iff`: the finite numbers that are read.
-/

namespace NodeReport

/-! ### Digits and signs -/

theorem readDigits?_eq_some_iff {cs : List Char} {n : Nat} :
    readDigits? cs = some n ↔ (∀ c ∈ cs, c.isDigit = true) ∧ cs ≠ [] ∧ digitsValue cs = n := by
  constructor
  · intro h
    unfold readDigits? at h
    split at h
    · rename_i hcond
      have hparts : cs ≠ [] ∧ ∀ c ∈ cs, c.isDigit = true := by
        simpa [List.all_eq_true] using hcond
      exact ⟨hparts.2, hparts.1, Option.some.inj h⟩
    · cases h
  · rintro ⟨hdigits, hne, rfl⟩
    exact readDigits?_of_isDigit hdigits hne

/-- A natural number: digits after at most one plus sign. -/
inductive WritesNat : List Char → Nat → Prop
  | digits {ds : List Char} (hds : ∀ c ∈ ds, c.isDigit = true) (hne : ds ≠ []) :
      WritesNat ds (digitsValue ds)
  | plus {ds : List Char} (hds : ∀ c ∈ ds, c.isDigit = true) (hne : ds ≠ []) :
      WritesNat ('+' :: ds) (digitsValue ds)

/-- The reader of natural numbers takes exactly what writes one that is not too large. -/
theorem readNat?_eq_some_iff {limit : Nat} {cs : List Char} {n : Nat} :
    readNat? limit cs = some n ↔ WritesNat cs n ∧ n ≤ limit := by
  unfold readNat?
  rw [Option.filter_eq_some_iff, decide_eq_true_iff, readDigits?_eq_some_iff]
  apply and_congr_left
  intro _
  constructor
  · split
    · rintro ⟨hdigits, hne, rfl⟩
      exact .plus hdigits hne
    · rintro ⟨hdigits, hne, rfl⟩
      exact .digits hdigits hne
  · intro h
    cases h with
    | plus hds hne => exact ⟨hds, hne, rfl⟩
    | digits hds hne =>
      split
      · exact absurd (hds '+' (by simp)) (by decide)
      · exact ⟨hds, hne, rfl⟩

/-- At most one sign, and whether it is a minus sign. -/
inductive IsSign : List Char → Bool → Prop
  | none : IsSign [] false
  | plus : IsSign ['+'] false
  | minus : IsSign ['-'] true

namespace DecimalNumber

theorem exists_sign_splitSign (cs : List Char) :
    ∃ sign, IsSign sign (splitSign cs).1 ∧ cs = sign ++ (splitSign cs).2 := by
  unfold splitSign
  split
  · exact ⟨['-'], .minus, rfl⟩
  · exact ⟨['+'], .plus, rfl⟩
  · exact ⟨[], .none, rfl⟩

/-- A sign is split off what starts with none. -/
theorem splitSign_append {sign rest : List Char} {negative : Bool} (hsign : IsSign sign negative)
    (hrest : ∀ c, rest.head? = some c → c ≠ '-' ∧ c ≠ '+') :
    splitSign (sign ++ rest) = (negative, rest) := by
  cases hsign with
  | plus => rfl
  | minus => rfl
  | none =>
    show splitSign rest = (false, rest)
    unfold splitSign
    split
    · exact absurd rfl (hrest '-' rfl).1
    · exact absurd rfl (hrest '+' rfl).2
    · rfl

theorem ne_sign_of_isDigit {c : Char} (h : c.isDigit = true) : c ≠ '-' ∧ c ≠ '+' := by
  constructor <;> rintro rfl <;> exact absurd h (by decide)

/-! ### The parts of a decimal number -/

/-- A point with its places, or nothing. -/
inductive IsFraction : List Char → List Char → Prop
  | none : IsFraction [] []
  | point {places : List Char} (hplaces : ∀ c ∈ places, c.isDigit = true) :
      IsFraction ('.' :: places) places

/-- An exponent after its mark, or nothing. -/
inductive IsExponent : List Char → Int → Prop
  | none : IsExponent [] 0
  | marked {mark : Char} {sign digits : List Char} {negative : Bool} (hmark : mark = 'e' ∨ mark = 'E')
      (hsign : IsSign sign negative) (hdigits : ∀ c ∈ digits, c.isDigit = true)
      (hne : digits ≠ []) :
      IsExponent (mark :: (sign ++ digits)) (Binary64.signed negative (digitsValue digits))

/-- Digits with at most one point among them and an exponent; one digit there is at least. -/
inductive WritesUnsigned (negative : Bool) : List Char → DecimalNumber → Prop
  | intro {whole fraction places exponent : List Char} {power : Int}
      (hwhole : ∀ c ∈ whole, c.isDigit = true) (hfraction : IsFraction fraction places)
      (hne : whole ++ places ≠ []) (hexponent : IsExponent exponent power) :
      WritesUnsigned negative (whole ++ (fraction ++ exponent))
        ⟨negative, digitsValue (whole ++ places), power - places.length⟩

/-- A decimal number with its sign. -/
inductive Writes : List Char → DecimalNumber → Prop
  | intro {sign rest : List Char} {negative : Bool} {d : DecimalNumber}
      (hsign : IsSign sign negative) (hrest : WritesUnsigned negative rest d) :
      Writes (sign ++ rest) d

theorem readExponent?_eq_some_iff {cs : List Char} {power : Int} :
    readExponent? cs = some power ↔ IsExponent cs power := by
  constructor
  · intro h
    cases cs with
    | nil =>
      cases h
      exact .none
    | cons mark rest =>
      by_cases hmark : mark = 'e' ∨ mark = 'E'
      · rw [readExponent?, if_pos hmark] at h
        obtain ⟨sign, hsign, hrest⟩ := exists_sign_splitSign rest
        generalize splitSign rest = parts at h hsign hrest
        obtain ⟨negative, digits⟩ := parts
        obtain ⟨n, hread, rfl⟩ := Option.map_eq_some_iff.mp h
        obtain ⟨hdigits, hne, rfl⟩ := readDigits?_eq_some_iff.mp hread
        rw [hrest]
        exact .marked hmark hsign hdigits hne
      · rw [readExponent?, if_neg hmark] at h
        cases h
  · intro h
    cases h with
    | none => rfl
    | marked hmark hsign hdigits hne =>
      have hhead : ∀ c, List.head? _ = some c → c ≠ '-' ∧ c ≠ '+' :=
        fun c hc => ne_sign_of_isDigit (hdigits c (List.mem_of_head? hc))
      rw [readExponent?, if_pos hmark, splitSign_append hsign hhead]
      simp only [readDigits?_of_isDigit hdigits hne, Option.map_some]

/-- What stands behind the digits of a number starts with no digit, and with no point if there was
    none among the digits. -/
def EndsDigits (fraction rest : List Char) : Prop :=
  (∀ c, rest.head? = some c → c.isDigit = false) ∧ (fraction = [] → rest.head? ≠ some '.')

theorem endsDigits_of_isExponent {fraction cs : List Char} {power : Int}
    (h : IsExponent cs power) : EndsDigits fraction cs := by
  cases h with
  | none => exact ⟨by simp, by simp⟩
  | marked hmark =>
    rcases hmark with rfl | rfl
    · exact ⟨by simp, by simp⟩
    · exact ⟨by simp, by simp⟩

/-- Every text is taken apart in one way. -/
theorem exists_parts (cs : List Char) :
    ∃ whole fraction places rest, cs = whole ++ (fraction ++ rest) ∧
      (∀ c ∈ whole, c.isDigit = true) ∧ IsFraction fraction places ∧ EndsDigits fraction rest := by
  have hdigits : ∀ ds : List Char, ∀ c ∈ ds.takeWhile Char.isDigit, c.isDigit = true :=
    fun _ _ hc => List.mem_takeWhile_imp hc
  refine ⟨cs.takeWhile Char.isDigit, ?_⟩
  by_cases hpoint : ∃ after, cs.dropWhile Char.isDigit = '.' :: after
  · obtain ⟨after, hafter⟩ := hpoint
    refine ⟨'.' :: after.takeWhile Char.isDigit, after.takeWhile Char.isDigit,
      after.dropWhile Char.isDigit, ?_, hdigits cs, .point (hdigits after),
      isDigit_head?_dropWhile after, ?_⟩
    · rw [List.cons_append, List.takeWhile_append_dropWhile, ← hafter,
        List.takeWhile_append_dropWhile]
    · exact fun hnil => absurd hnil (List.cons_ne_nil _ _)
  · refine ⟨[], [], cs.dropWhile Char.isDigit, ?_, hdigits cs, .none,
      isDigit_head?_dropWhile cs, ?_⟩
    · rw [List.nil_append, List.takeWhile_append_dropWhile]
    · intro _ hhead
      obtain ⟨after, hafter⟩ := List.head?_eq_some_iff.mp hhead
      exact hpoint ⟨after, hafter⟩

/-- The reader of unsigned numbers on the parts of a text. -/
theorem readUnsigned?_append {negative : Bool} {whole fraction places rest : List Char}
    (hwhole : ∀ c ∈ whole, c.isDigit = true) (hfraction : IsFraction fraction places)
    (hrest : EndsDigits fraction rest) :
    readUnsigned? negative (whole ++ (fraction ++ rest)) =
      if whole ++ places = [] then none
      else (readExponent? rest).map fun power =>
        ⟨negative, digitsValue (whole ++ places), power - places.length⟩ := by
  have hcond : (whole.isEmpty && places.isEmpty) = decide (whole ++ places = []) := by
    cases whole <;> cases places <;> rfl
  unfold readUnsigned?
  cases hfraction with
  | none =>
    have hpoint := hrest.2 rfl
    simp only [List.nil_append, takeWhile_isDigit_append hwhole hrest.1,
      dropWhile_isDigit_append hwhole hrest.1]
    split
    · exact absurd rfl hpoint
    · simp only [hcond, decide_eq_true_iff]
  | point hplaces =>
    have hpoint : ∀ c, ('.' :: (places ++ rest)).head? = some c → c.isDigit = false := by
      intro c hc
      cases hc
      decide
    simp only [List.cons_append, takeWhile_isDigit_append hwhole hpoint,
      dropWhile_isDigit_append hwhole hpoint, takeWhile_isDigit_append hplaces hrest.1,
      dropWhile_isDigit_append hplaces hrest.1, hcond, decide_eq_true_iff]

/-- The reader of unsigned numbers takes exactly what the grammar says. -/
theorem readUnsigned?_eq_some_iff {negative : Bool} {cs : List Char} {d : DecimalNumber} :
    readUnsigned? negative cs = some d ↔ WritesUnsigned negative cs d := by
  constructor
  · intro h
    obtain ⟨whole, fraction, places, rest, rfl, hwhole, hfraction, hrest⟩ := exists_parts cs
    rw [readUnsigned?_append hwhole hfraction hrest] at h
    split at h
    · cases h
    · -- the exponent takes all that is left
      rename_i hne
      obtain ⟨power, hread, rfl⟩ := Option.map_eq_some_iff.mp h
      exact .intro hwhole hfraction hne (readExponent?_eq_some_iff.mp hread)
  · intro h
    cases h with
    | intro hwhole hfraction hne hexponent =>
      rw [readUnsigned?_append hwhole hfraction (endsDigits_of_isExponent hexponent), if_neg hne,
        readExponent?_eq_some_iff.mpr hexponent, Option.map_some]

theorem exists_head_of_writesUnsigned {negative : Bool} {cs : List Char} {d : DecimalNumber}
    (h : WritesUnsigned negative cs d) :
    ∃ c rest, cs = c :: rest ∧ (c.isDigit = true ∨ c = '.') := by
  cases h with
  | intro hwhole hfraction hne hexponent =>
    rename_i whole fraction places exponent power
    cases whole with
    | cons c whole => exact ⟨c, _, rfl, .inl (hwhole c (by simp))⟩
    | nil =>
      cases hfraction with
      | none => exact absurd rfl hne
      | point hplaces => exact ⟨'.', _, rfl, .inr rfl⟩

/-! ### The exact value -/

theorem cast_pow10 (k : Nat) : ((pow10 k : Nat) : ℚ) = 10 ^ (k : Int) := by
  rw [zpow_natCast]
  exact Nat.cast_pow 10 k

/-- The exact value of a decimal number, without its sign. -/
def magnitude (d : DecimalNumber) : ℚ :=
  d.digits * 10 ^ d.exponent

/-- The quotient that is rounded is the exact value. -/
theorem cast_div_eq_magnitude (d : DecimalNumber) :
    ((d.digits * pow10 d.exponent.toNat : Nat) : ℚ) / (pow10 (-d.exponent).toNat : Nat) =
      d.magnitude := by
  unfold magnitude
  rw [Nat.cast_mul, cast_pow10, cast_pow10, mul_div_assoc, ← zpow_sub₀ (by norm_num)]
  -- one of the two natural exponents is zero
  congr 2
  omega

theorem magnitude_nonneg (d : DecimalNumber) : 0 ≤ d.magnitude :=
  mul_nonneg (Nat.cast_nonneg _) (zpow_nonneg (by norm_num) _)

/-- The count of digits bounds the exact value. -/
theorem magnitude_bounds {d : DecimalNumber} (h : d.digits ≠ 0) :
    (10 : ℚ) ^ ((decimalDigits d.digits).length + d.exponent - 1) ≤ d.magnitude ∧
      d.magnitude < 10 ^ ((decimalDigits d.digits).length + d.exponent) := by
  have hten : (10 : ℚ) ≠ 0 := by norm_num
  have hlength := List.length_pos_iff.mpr (decimalDigits_ne_nil d.digits)
  generalize hn : (decimalDigits d.digits).length = n at hlength
  have hhigh : d.digits < pow10 n := (length_decimalDigits_le_iff hlength).mp hn.le
  have hlow : pow10 (n - 1) ≤ d.digits := by
    by_contra hless
    by_cases hone : n = 1
    · rw [hone] at hless
      exact hless (Nat.pos_of_ne_zero h)
    · have hle := (length_decimalDigits_le_iff (show 0 < n - 1 by omega)).mpr
        (Nat.lt_of_not_le hless)
      omega
  have hpos : (0 : ℚ) < 10 ^ d.exponent := zpow_pos (by norm_num) _
  have hlowCast : ((pow10 (n - 1) : Nat) : ℚ) ≤ d.digits := by exact_mod_cast hlow
  have hhighCast : (d.digits : ℚ) < (pow10 n : Nat) := by exact_mod_cast hhigh
  rw [cast_pow10] at hlowCast hhighCast
  unfold magnitude
  constructor
  · rw [show (n : Int) + d.exponent - 1 = ((n - 1 : Nat) : Int) + d.exponent by omega,
      zpow_add₀ hten]
    exact mul_le_mul_of_nonneg_right hlowCast hpos.le
  · rw [zpow_add₀ hten]
    exact mul_lt_mul_of_pos_right hhighCast hpos

/-- The number that is read is the one nearest to the exact value, unless this is beyond the format:
    not to expand what is far below the least number or far beyond the greatest one changes
    nothing. -/
theorem nearest_cases (d : DecimalNumber) :
    (∃ m e h, d.nearest = .finite d.negative m e h ∧
      Binary64.magnitude m e = Binary64.near d.magnitude) ∨
    d.nearest = .infinite d.negative ∧ (2 : ℚ) ^ (1024 : Int) ≤ Binary64.near d.magnitude := by
  have hone : (1 : ℚ) ≤ 10 := by norm_num
  have htwo : (1 : ℚ) ≤ 2 := by norm_num
  have hpow : (2 : ℚ) ^ (1200 : Int) ≤ 10 ^ (400 : Int) := by
    calc (2 : ℚ) ^ (1200 : Int) = (2 ^ (3 : Int)) ^ (400 : Int) := (zpow_mul 2 3 400)
      _ ≤ 10 ^ (400 : Int) := zpow_le_zpow_left₀ (by decide) (by norm_num) (by norm_num)
  have hzero : Binary64.near d.magnitude = 0 →
      ∃ m e h, Binary64.zero d.negative = .finite d.negative m e h ∧
        Binary64.magnitude m e = Binary64.near d.magnitude := by
    intro hnear
    exact ⟨0, -1074, by decide, rfl, by rw [hnear, Binary64.magnitude, Nat.cast_zero, zero_mul]⟩
  unfold nearest
  simp only
  by_cases hdigits : d.digits = 0
  · rw [if_pos (.inl hdigits)]
    left
    apply hzero
    rw [magnitude, hdigits, Nat.cast_zero, zero_mul, Binary64.near_zero]
  obtain ⟨hlow, hhigh⟩ := magnitude_bounds hdigits
  -- the first digit stands 400 places behind the point: far below the least positive number
  by_cases htiny : ((Nat.toDigits 10 d.digits).length : Int) + d.exponent < -400
  · rw [if_pos (.inr htiny)]
    left
    apply hzero
    apply Binary64.near_eq_zero d.magnitude_nonneg
    calc d.magnitude < _ := hhigh
      _ ≤ (10 : ℚ) ^ (-400 : Int) := zpow_le_zpow_right₀ hone htiny.le
      _ ≤ (2 : ℚ) ^ (-1200 : Int) := by
        rw [zpow_neg, zpow_neg]
        exact inv_anti₀ (zpow_pos (by norm_num) _) hpow
      _ ≤ 2 ^ (-1075 : Int) := zpow_le_zpow_right₀ htwo (by decide)
  rw [if_neg (by omega)]
  -- more than 400 digits in front of the point: beyond the greatest number
  by_cases hhuge : 400 < ((Nat.toDigits 10 d.digits).length : Int) + d.exponent
  · rw [if_pos hhuge]
    refine .inr ⟨rfl, ?_⟩
    rw [← Binary64.near_two_zpow (k := 1024) (by decide)]
    apply Binary64.near_mono (zpow_nonneg (by norm_num) _)
    calc (2 : ℚ) ^ (1024 : Int) ≤ 2 ^ (1200 : Int) := zpow_le_zpow_right₀ htwo (by decide)
      _ ≤ 10 ^ (400 : Int) := hpow
      _ ≤ _ := zpow_le_zpow_right₀ hone (Int.le_sub_one_of_lt hhuge)
      _ ≤ d.magnitude := hlow
  · rw [if_neg hhuge]
    have hcases := Binary64.nearest_cases d.negative (d.digits * pow10 d.exponent.toNat)
      (show 0 < pow10 (-d.exponent).toNat from Nat.pow_pos (by decide))
    rwa [cast_div_eq_magnitude] at hcases

/-! ### Reading -/

/-- What follows the sign of a decimal number starts with a digit or a point, so it is no word. -/
theorem readBinary64?_of_writes {cs : List Char} {d : DecimalNumber} (h : Writes cs d) :
    readBinary64? cs = some d.nearest := by
  cases h with
  | intro hsign hrest =>
    rename_i sign rest negative
    obtain ⟨c, tail, hcons, hc⟩ := exists_head_of_writesUnsigned hrest
    have hhead : ∀ c', rest.head? = some c' → c' ≠ '-' ∧ c' ≠ '+' := by
      intro c' hc'
      rw [hcons] at hc'
      cases hc'
      rcases hc with hdigit | rfl
      · exact ne_sign_of_isDigit hdigit
      · decide
    have hword : readWord? negative rest = none := by
      rw [hcons]
      rcases hc with hdigit | rfl
      · exact readWord?_of_isDigit hdigit
      · simp [readWord?]
    unfold readBinary64?
    rw [splitSign_append hsign hhead]
    simp only [hword, readUnsigned?_eq_some_iff.mpr hrest, Option.map_some]

/-- A natural number is a decimal number without a point and an exponent. -/
theorem exists_writes_of_writesNat {cs : List Char} {n : Nat} (h : WritesNat cs n) :
    ∃ d, Writes cs d := by
  have hwhole : ∀ ds : List Char, (∀ c ∈ ds, c.isDigit = true) → ds ≠ [] →
      ∃ d, WritesUnsigned false ds d := by
    intro ds hds hne
    -- behind the digits, the fraction and the exponent are empty
    have hparts : ∃ d, WritesUnsigned false (ds ++ ([] ++ [])) d :=
      ⟨_, .intro hds .none (by simpa using hne) .none⟩
    rwa [List.append_nil, List.append_nil] at hparts
  cases h with
  | digits hds hne =>
    obtain ⟨d, hd⟩ := hwhole _ hds hne
    exact ⟨d, .intro .none hd⟩
  | plus hds hne =>
    obtain ⟨d, hd⟩ := hwhole _ hds hne
    exact ⟨d, .intro .plus hd⟩

theorem isFinite_of_readWord? {negative : Bool} {cs : List Char} {x : Binary64}
    (h : readWord? negative cs = some x) : x.isFinite = false := by
  unfold readWord? at h
  simp only at h
  split at h
  · cases h
    rfl
  · split at h
    · cases h
      rfl
    · cases h

/-- Only a decimal number is read as a finite number. -/
theorem exists_writes_of_readBinary64? {cs : List Char} {x : Binary64}
    (h : readBinary64? cs = some x) (hfinite : x.isFinite = true) :
    ∃ d, Writes cs d ∧ d.nearest = x := by
  obtain ⟨sign, hsign, hrest⟩ := exists_sign_splitSign cs
  unfold readBinary64? at h
  simp only at h
  split at h
  · rename_i hword
    cases h
    rw [isFinite_of_readWord? hword] at hfinite
    cases hfinite
  · obtain ⟨d, hread, rfl⟩ := Option.map_eq_some_iff.mp h
    refine ⟨d, ?_, rfl⟩
    rw [hrest]
    exact .intro hsign (readUnsigned?_eq_some_iff.mp hread)

/-- The value of the number that is read. -/
def readValue (d : DecimalNumber) : ℚ :=
  if d.negative then -Binary64.near d.magnitude else Binary64.near d.magnitude

end DecimalNumber

/-- The rational number that a finite number of the format is; what is not finite counts as zero. -/
def Binary64.value : Binary64 → ℚ
  | .finite negative m e _ => if negative then -magnitude m e else magnitude m e
  | _ => 0

/-- A text that is read as the finite number `x`: it writes a decimal number, and `x` is the number
    of the format nearest to it. -/
inductive ReadsAs : List Char → ℚ → Prop
  | intro {cs : List Char} {d : DecimalNumber} (hwrites : DecimalNumber.Writes cs d)
      (hrange : Binary64.near d.magnitude < 2 ^ (1024 : Int)) : ReadsAs cs d.readValue

theorem readsAs_iff {cs : List Char} {q : ℚ} :
    ReadsAs cs q ↔ ∃ x, readBinary64? cs = some x ∧ x.isFinite = true ∧ x.value = q := by
  constructor
  · intro h
    cases h with
    | intro hwrites hrange =>
      rename_i d
      rcases d.nearest_cases with ⟨m, e, hm, hnearest, hvalue⟩ | ⟨-, hlarge⟩
      · refine ⟨_, DecimalNumber.readBinary64?_of_writes hwrites, by rw [hnearest]; rfl, ?_⟩
        rw [hnearest, Binary64.value, hvalue]
        rfl
      · exact absurd hrange (not_lt.mpr hlarge)
  · rintro ⟨x, hread, hfinite, rfl⟩
    obtain ⟨d, hwrites, rfl⟩ := DecimalNumber.exists_writes_of_readBinary64? hread hfinite
    rcases d.nearest_cases with ⟨m, e, hm, hnearest, hvalue⟩ | ⟨hinfinite, -⟩
    · have hrange : Binary64.near d.magnitude < 2 ^ (1024 : Int) := by
        rw [← hvalue]
        apply (Binary64.magnitude_lt e hm.1).trans_le
        apply zpow_le_zpow_right₀ (by norm_num)
        have hexponent := hm.2.2.2
        omega
      have hsame : d.nearest.value = d.readValue := by
        rw [hnearest, Binary64.value, hvalue]
        rfl
      rw [hsame]
      exact .intro hwrites hrange
    · -- what is beyond the format is read as an infinity
      rw [hinfinite] at hfinite
      cases hfinite

end NodeReport

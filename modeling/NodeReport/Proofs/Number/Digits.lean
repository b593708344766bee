import NodeReport.Number.Decimal
import NodeReport.Number.Reading

/-! # Decimal digits

  Writing a natural number in decimal and reading the digits give each other back, also with zeros
  in front. Two sequences of digits of the same length are ordered like the numbers they write.
-/

namespace NodeReport

/-! ### The number that digits write -/

theorem digitsValue_eq_ofDigitChars (ds : List Char) :
    digitsValue ds = Nat.ofDigitChars 10 ds 0 := rfl

@[simp] theorem digitsValue_nil : digitsValue [] = 0 := rfl

theorem digitsValue_append (ds es : List Char) :
    digitsValue (ds ++ es) = pow10 es.length * digitsValue ds + digitsValue es := by
  rw [digitsValue_eq_ofDigitChars, Nat.ofDigitChars_append, Nat.ofDigitChars_eq_ofDigitChars_zero]
  rfl

theorem digitsValue_cons (c : Char) (ds : List Char) :
    digitsValue (c :: ds) = pow10 ds.length * (c.toNat - 48) + digitsValue ds := by
  have h := digitsValue_append [c] ds
  simpa [digitsValue] using h

@[simp] theorem digitsValue_replicate_zero (k : Nat) :
    digitsValue (List.replicate k '0') = 0 := by
  rw [digitsValue_eq_ofDigitChars, Nat.ofDigitChars_replicate_zero, Nat.mul_zero]

@[simp] theorem digitsValue_decimalDigits (n : Nat) : digitsValue (decimalDigits n) = n :=
  Nat.ofDigitChars_ten_toDigits

/-- Reads back what was written, zeros in front or not. -/
@[simp] theorem digitsValue_paddedDigits (least n : Nat) :
    digitsValue (paddedDigits least n) = n := by
  unfold paddedDigits
  rw [digitsValue_append]
  simp

/-! ### The digits of a number -/

theorem isDigit_of_mem_decimalDigits {n : Nat} {c : Char} (h : c ∈ decimalDigits n) :
    c.isDigit = true :=
  Nat.isDigit_of_mem_toDigits (by decide) (by decide) h

theorem decimalDigits_ne_nil (n : Nat) : decimalDigits n ≠ [] :=
  Nat.toDigits_ne_nil

theorem length_decimalDigits_le_iff {n k : Nat} (hk : 0 < k) :
    (decimalDigits n).length ≤ k ↔ n < pow10 k :=
  Nat.length_toDigits_le_iff (by decide) hk

theorem isDigit_of_mem_paddedDigits {least n : Nat} {c : Char} (h : c ∈ paddedDigits least n) :
    c.isDigit = true := by
  unfold paddedDigits at h
  -- a zero in front, or a digit of the number
  rcases List.mem_append.mp h with h | h
  · rw [List.eq_of_mem_replicate h]
    decide
  · exact isDigit_of_mem_decimalDigits h

theorem paddedDigits_ne_nil (least n : Nat) : paddedDigits least n ≠ [] := by
  unfold paddedDigits
  simp [decimalDigits_ne_nil]

/-- A number that is not too large has exactly the least count of digits. -/
theorem length_paddedDigits {least n : Nat} (hpos : 0 < least) (h : n < pow10 least) :
    (paddedDigits least n).length = least := by
  have hle := (length_decimalDigits_le_iff hpos).mpr h
  unfold paddedDigits
  simp only [List.length_append, List.length_replicate]
  omega

/-! ### Digits with a bound -/

theorem toNat_of_isDigit {c : Char} (h : c.isDigit = true) : 48 ≤ c.toNat ∧ c.toNat ≤ 57 :=
  Char.isDigit_iff_toNat.mp h

theorem digitsValue_lt {ds : List Char} (h : ∀ c ∈ ds, c.isDigit = true) :
    digitsValue ds < pow10 ds.length := by
  induction ds with
  | nil => decide
  | cons c ds ih =>
    have hc := toNat_of_isDigit (h c (List.mem_cons_self ..))
    have hds := ih fun d hd => h d (List.mem_cons_of_mem _ hd)
    rw [digitsValue_cons]
    have hmul : pow10 ds.length * (c.toNat - 48) ≤ pow10 ds.length * 9 :=
      Nat.mul_le_mul_left _ (by omega)
    have hpow : pow10 (c :: ds).length = pow10 ds.length * 10 := Nat.pow_succ ..
    omega

end NodeReport

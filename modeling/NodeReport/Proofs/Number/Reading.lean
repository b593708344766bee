import NodeReport.Proofs.Number.Digits

/-! # Numbers read from digits

  Digits in front of what follows them, and what the readers of integers make of nothing but digits.
  What starts with a digit has no sign and is no word.
-/

namespace NodeReport

/-! ### Runs of digits -/

/-- Takes the digits in front, if no further digit follows them. -/
theorem takeWhile_isDigit_append {ds rest : List Char} (hds : ∀ c ∈ ds, c.isDigit = true)
    (hrest : ∀ c, rest.head? = some c → c.isDigit = false) :
    (ds ++ rest).takeWhile Char.isDigit = ds := by
  rw [List.takeWhile_append_of_pos hds]
  cases rest with
  | nil => simp
  | cons c rest =>
    have hc := hrest c rfl
    simp [hc]

theorem dropWhile_isDigit_append {ds rest : List Char} (hds : ∀ c ∈ ds, c.isDigit = true)
    (hrest : ∀ c, rest.head? = some c → c.isDigit = false) :
    (ds ++ rest).dropWhile Char.isDigit = rest := by
  rw [List.dropWhile_append_of_pos hds]
  cases rest with
  | nil => rfl
  | cons c rest => exact List.dropWhile_cons_of_neg (by simp [hrest c rfl])

/-- What is left behind the digits in front starts with no digit. -/
theorem isDigit_head?_dropWhile (cs : List Char) :
    ∀ c, (cs.dropWhile Char.isDigit).head? = some c → c.isDigit = false := by
  intro c hc
  have hnot := List.head?_dropWhile_not Char.isDigit cs
  rw [hc] at hnot
  simpa using hnot

/-! ### Integers -/

theorem readDigits?_of_isDigit {ds : List Char} (hds : ∀ c ∈ ds, c.isDigit = true)
    (hne : ds ≠ []) : readDigits? ds = some (digitsValue ds) := by
  have hall : ds.all Char.isDigit = true := List.all_eq_true.mpr hds
  have hempty : ds.isEmpty = false := by simpa using hne
  unfold readDigits?
  simp [hall, hempty]

theorem readNat?_decimalDigits {limit n : Nat} (h : n ≤ limit) :
    readNat? limit (decimalDigits n) = some n := by
  have hread := readDigits?_of_isDigit (fun c hc => isDigit_of_mem_decimalDigits hc)
    (decimalDigits_ne_nil n)
  rw [digitsValue_decimalDigits] at hread
  unfold readNat?
  split
  · rename_i heq
    have hplus : '+' ∈ decimalDigits n := by simp [heq]
    exact absurd (isDigit_of_mem_decimalDigits hplus) (by decide)
  · simp [hread, h]

theorem readInt64?_decimalDigits {n : Nat} (h : (n : Int) ≤ maxInt64) :
    readInt64? (decimalDigits n) = some n := by
  have hread := readDigits?_of_isDigit (fun c hc => isDigit_of_mem_decimalDigits hc)
    (decimalDigits_ne_nil n)
  rw [digitsValue_decimalDigits] at hread
  have hlow : minInt64 ≤ (n : Int) := by
    unfold minInt64
    omega
  unfold readInt64? readInt?
  split
  · rename_i heq
    have hplus : '+' ∈ decimalDigits n := by simp [heq]
    exact absurd (isDigit_of_mem_decimalDigits hplus) (by decide)
  · rename_i heq
    have hminus : '-' ∈ decimalDigits n := by simp [heq]
    exact absurd (isDigit_of_mem_decimalDigits hminus) (by decide)
  · simp [hread, h, hlow]

/-! ### Decimal numbers -/

namespace DecimalNumber

theorem splitSign_of_isDigit {c : Char} {cs : List Char} (h : c.isDigit = true) :
    splitSign (c :: cs) = (false, c :: cs) := by
  unfold splitSign
  split
  · rename_i heq
    cases heq
    exact absurd h (by decide)
  · rename_i heq
    cases heq
    exact absurd h (by decide)
  · rfl

end DecimalNumber

/-- What starts with a digit is no word. -/
theorem readWord?_of_isDigit {negative : Bool} {c : Char} {cs : List Char}
    (h : c.isDigit = true) : readWord? negative (c :: cs) = none := by
  have hc := toNat_of_isDigit h
  have hlower : c.toLower = c := by
    unfold Char.toLower
    rw [dif_neg]
    rintro ⟨hlow, -⟩
    have hle : 65 ≤ c.toNat := hlow
    omega
  have hne : ∀ d ∈ ['i', 'n'], c ≠ d := by
    intro d hd heq
    have hcases : d = 'i' ∨ d = 'n' := by simpa using hd
    rcases hcases with rfl | rfl <;> rw [heq] at h <;> exact absurd h (by decide)
  unfold readWord?
  simp only [List.map_cons, hlower]
  rw [if_neg, if_neg]
  · intro hword
    exact hne 'n' (by simp) (List.cons.inj hword).1
  · rintro (hword | hword) <;> exact hne 'i' (by simp) (List.cons.inj hword).1

end NodeReport

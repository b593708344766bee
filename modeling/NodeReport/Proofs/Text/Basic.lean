import NodeReport.Text.Basic

/-! # Texts without blanks at their ends

  A text whose first and last characters are no blanks is left as it is by trimming, and blanks
  that stand after it are taken away.
-/

namespace NodeReport.Text

/-! ### Dropping at the end -/

/-- Nothing is dropped after a last character that stays. -/
theorem dropRightWhile_concat {p : Char → Bool} {cs : List Char} {c : Char} (h : p c = false) :
    dropRightWhile p (cs ++ [c]) = cs ++ [c] := by
  unfold dropRightWhile
  rw [List.reverse_append, List.reverse_singleton, List.singleton_append,
    List.dropWhile_cons_of_neg (by simp [h])]
  simp

/-- What stands at the end and is dropped as a whole does not matter. -/
theorem dropRightWhile_append_of_all {p : Char → Bool} {cs ds : List Char}
    (h : ∀ c ∈ ds, p c = true) : dropRightWhile p (cs ++ ds) = dropRightWhile p cs := by
  unfold dropRightWhile
  rw [List.reverse_append, List.dropWhile_append_of_pos]
  intro c hc
  exact h c (List.mem_reverse.mp hc)

/-- What is dropped at the end of the second part leaves the first part alone, if anything of the
    second part stays. -/
theorem dropRightWhile_append {p : Char → Bool} (cs : List Char) {ds : List Char}
    (h : dropRightWhile p ds ≠ []) :
    dropRightWhile p (cs ++ ds) = cs ++ dropRightWhile p ds := by
  unfold dropRightWhile at *
  have hne : ds.reverse.dropWhile p ≠ [] := fun hnil => h (by rw [hnil]; rfl)
  rw [List.reverse_append, List.dropWhile_append]
  simp [hne]

/-- What is dropped satisfies the condition. -/
theorem exists_dropRightWhile_append (p : Char → Bool) (cs : List Char) :
    ∃ ds, (∀ c ∈ ds, p c = true) ∧ cs = dropRightWhile p cs ++ ds := by
  refine ⟨(cs.reverse.takeWhile p).reverse, ?_, ?_⟩
  · intro c hc
    exact List.all_eq_true.mp List.all_takeWhile c (List.mem_reverse.mp hc)
  · unfold dropRightWhile
    rw [← List.reverse_append, List.takeWhile_append_dropWhile, List.reverse_reverse]

/-! ### Trimming -/

theorem isBlank_of_isDigit {c : Char} (h : c.isDigit = true) : isBlank c = false := by
  have hc : 48 ≤ c.toNat ∧ c.toNat ≤ 57 := Char.isDigit_iff_toNat.mp h
  simp [isBlank]
  omega

theorem trimStart_cons {c : Char} {cs : List Char} (h : isBlank c = false) :
    trimStart (c :: cs) = c :: cs :=
  List.dropWhile_cons_of_neg (by simp [h])

theorem trimEnd_concat {c : Char} {cs : List Char} (h : isBlank c = false) :
    trimEnd (cs ++ [c]) = cs ++ [c] :=
  dropRightWhile_concat h

/-- The last character decides that nothing is trimmed at the end. -/
theorem trimEnd_eq_self {cs : List Char} (hlast : ∀ c, cs.getLast? = some c → isBlank c = false) :
    trimEnd cs = cs := by
  rcases List.eq_nil_or_concat cs with rfl | ⟨front, c, rfl⟩
  · rfl
  · rw [List.concat_eq_append] at hlast ⊢
    exact trimEnd_concat (hlast c (by simp))

/-- The first and the last character decide that nothing is trimmed. -/
theorem trim_eq_self {cs : List Char} (hfirst : ∀ c, cs.head? = some c → isBlank c = false)
    (hlast : ∀ c, cs.getLast? = some c → isBlank c = false) : trim cs = cs := by
  have hstart : trimStart cs = cs := by
    cases cs with
    | nil => rfl
    | cons c rest => exact trimStart_cons (hfirst c rfl)
  unfold trim
  rw [hstart]
  exact trimEnd_eq_self hlast

/-- A blank after a text is trimmed. -/
theorem trim_append_blank {cs : List Char} {b : Char} (hb : isBlank b = true) (hne : cs ≠ [])
    (hfirst : ∀ c, cs.head? = some c → isBlank c = false)
    (hlast : ∀ c, cs.getLast? = some c → isBlank c = false) : trim (cs ++ [b]) = cs := by
  obtain ⟨c, rest, rfl⟩ := List.exists_cons_of_ne_nil hne
  have hstart : trimStart (c :: rest ++ [b]) = c :: rest ++ [b] := trimStart_cons (hfirst c rfl)
  have hend := trimEnd_eq_self hlast
  unfold trim
  rw [hstart]
  unfold trimEnd at hend ⊢
  rw [dropRightWhile_append_of_all (by simpa using hb), hend]

/-- Trimming takes blanks away at both ends and nothing else. -/
theorem exists_trim_append (cs : List Char) :
    ∃ before after, (∀ c ∈ before, isBlank c = true) ∧ (∀ c ∈ after, isBlank c = true) ∧
      cs = before ++ (trim cs ++ after) := by
  obtain ⟨after, hafter, hcs⟩ := exists_dropRightWhile_append isBlank (trimStart cs)
  refine ⟨cs.takeWhile isBlank, after, List.all_eq_true.mp List.all_takeWhile, hafter, ?_⟩
  unfold trim trimEnd
  rw [← hcs, trimStart, List.takeWhile_append_dropWhile]

/-- What is trimmed at the start as well stands at the end of what is trimmed there only. -/
theorem exists_trimEnd_eq_append {cs : List Char} (h : trim cs ≠ []) :
    ∃ before, trimEnd cs = before ++ trim cs := by
  refine ⟨cs.takeWhile isBlank, ?_⟩
  have hparts := List.takeWhile_append_dropWhile (p := isBlank) (l := cs)
  calc trimEnd cs = trimEnd (cs.takeWhile isBlank ++ trimStart cs) := by rw [trimStart, hparts]
    _ = cs.takeWhile isBlank ++ trim cs := dropRightWhile_append _ h

/-! ### Ends -/

theorem endsWith_iff {tail cs : List Char} :
    endsWith tail cs = true ↔ ∃ front, cs = front ++ tail := by
  unfold endsWith
  rw [List.isPrefixOf_iff_prefix, List.reverse_prefix]
  constructor
  · rintro ⟨front, h⟩
    exact ⟨front, h.symm⟩
  · rintro ⟨front, h⟩
    exact ⟨front, h.symm⟩

end NodeReport.Text

import NodeReport.Calendar.DayText
import NodeReport.Proofs.Calendar.Day
import NodeReport.Proofs.Number.Reading
import NodeReport.Proofs.Text.Basic

/-! # Days read back from their texts

  The strict reader gives every day back from its text, also a day whose year has a sign. Each
  scanner is stated on the digits in front of what follows them. The lenient reader finds a day of
  a year that is not negative behind other characters.
-/

namespace NodeReport

namespace Day

/-! ### Scanners -/

theorem scanDigits?_append {limit : Nat} {ds rest : List Char}
    (hds : ∀ c ∈ ds, c.isDigit = true) (hne : ds ≠ []) (hlen : ds.length ≤ limit)
    (hrest : ∀ c, rest.head? = some c → c.isDigit = false) :
    scanDigits? limit (ds ++ rest) = some (digitsValue ds, rest) := by
  -- the limit cuts into the rest at most, and what is left of it starts with no digit
  have htake : (ds ++ rest).take limit = ds ++ rest.take (limit - ds.length) := by
    rw [List.take_append, List.take_of_length_le hlen]
  have hhead : ∀ c, (rest.take (limit - ds.length)).head? = some c → c.isDigit = false := by
    intro c hc
    cases rest with
    | nil => simp at hc
    | cons r rest =>
      cases hk : limit - ds.length with
      | zero => simp [hk] at hc
      | succ k =>
        rw [hk] at hc
        exact hrest c hc
  unfold scanDigits?
  simp only [htake, takeWhile_isDigit_append hds hhead]
  rw [if_neg (by simpa using hne), List.drop_left]

theorem scanRun?_append {ds rest : List Char} (hds : ∀ c ∈ ds, c.isDigit = true) (hne : ds ≠ [])
    (hrest : ∀ c, rest.head? = some c → c.isDigit = false) :
    scanRun? (ds ++ rest) = some (digitsValue ds, rest) :=
  scanDigits?_append hds hne (by simp) hrest

/-- Without a sign in front the year has four digits at most. -/
theorem scanYear?_of_isDigit {c : Char} {cs : List Char} (h : c.isDigit = true) :
    scanYear? (c :: cs) = (scanDigits? 4 (c :: cs)).map fun (n, rest) => ((n : Int), rest) := by
  unfold scanYear?
  split
  · rename_i heq
    cases heq
    exact absurd h (by decide)
  · rename_i heq
    cases heq
    exact absurd h (by decide)
  · rfl

/-! ### The parts of a text -/

theorem head?_hyphen_cons (cs : List Char) :
    ∀ c, ('-' :: cs).head? = some c → c.isDigit = false := by
  intro c hc
  cases hc
  decide

/-- A year in front of a hyphen is read back, with its sign. -/
theorem scanYear?_yearText (year : Int) (cs : List Char) :
    scanYear? (yearText year ++ '-' :: cs) = some (year, '-' :: cs) := by
  have hdigits : ∀ c ∈ paddedDigits 4 year.natAbs, c.isDigit = true :=
    fun c hc => isDigit_of_mem_paddedDigits hc
  have hne := paddedDigits_ne_nil 4 year.natAbs
  have hrun := scanRun?_append hdigits hne (head?_hyphen_cons cs)
  rw [digitsValue_paddedDigits] at hrun
  unfold yearText
  simp only
  split
  · -- a minus sign
    rename_i hneg
    simp only [List.cons_append, scanYear?, hrun, Option.map_some]
    rw [show -((year.natAbs : Nat) : Int) = year by omega]
  · split
    · -- a plus sign
      rename_i hneg hlarge
      simp only [List.cons_append, scanYear?, hrun, Option.map_some]
      rw [show ((year.natAbs : Nat) : Int) = year by omega]
    · -- four digits
      rename_i hneg hlarge
      have hlen : (paddedDigits 4 year.natAbs).length = 4 :=
        length_paddedDigits (by decide) (show year.natAbs < 10000 by omega)
      have hscan := scanDigits?_append hdigits hne (Nat.le_of_eq hlen)
        (head?_hyphen_cons cs)
      rw [digitsValue_paddedDigits] at hscan
      obtain ⟨c, rest, hcons⟩ := List.exists_cons_of_ne_nil hne
      rw [hcons, List.cons_append] at hscan ⊢
      rw [scanYear?_of_isDigit (hdigits c (by simp [hcons])), hscan]
      simp only [Option.map_some]
      rw [show ((year.natAbs : Nat) : Int) = year by omega]

/-- Two digits of a month or of a day of the month are read back. -/
theorem scanDigits?_two {n : Nat} {cs : List Char} (hn : n < 100)
    (hcs : ∀ c, cs.head? = some c → c.isDigit = false) :
    scanDigits? 2 (Text.trimStart (paddedDigits 2 n ++ cs)) = some (n, cs) := by
  have hdigits : ∀ c ∈ paddedDigits 2 n, c.isDigit = true :=
    fun c hc => isDigit_of_mem_paddedDigits hc
  have hne := paddedDigits_ne_nil 2 n
  have hlen : (paddedDigits 2 n).length = 2 := length_paddedDigits (by decide) hn
  have hstart : Text.trimStart (paddedDigits 2 n ++ cs) = paddedDigits 2 n ++ cs := by
    obtain ⟨c, rest, hcons⟩ := List.exists_cons_of_ne_nil hne
    rw [hcons]
    exact Text.trimStart_cons (Text.isBlank_of_isDigit (hdigits c (by simp [hcons])))
  rw [hstart, scanDigits?_append hdigits hne (Nat.le_of_eq hlen) hcs, digitsValue_paddedDigits]

/-! ### Whole texts -/

/-- The characters of a day, with the hyphens in their places. -/
theorem chars_eq (d : Day) :
    d.chars = yearText d.year ++ '-' :: (paddedDigits 2 d.month ++ '-' :: paddedDigits 2 d.day) := by
  unfold chars
  rw [List.append_assoc, List.cons_append]

theorem month_lt_hundred (d : Day) : d.month < 100 := by
  have := d.month_bounds
  omega

theorem day_lt_hundred (d : Day) : d.day < 100 := by
  have hday := d.day_bounds
  have hlen := monthLength_bounds d.year d.month
  omega

/-- The digits of a day's year, and all that follows them. -/
def unsignedChars (d : Day) : List Char :=
  paddedDigits 4 d.year.natAbs ++ '-' :: (paddedDigits 2 d.month ++ '-' :: paddedDigits 2 d.day)

/-- A day's text starts with a sign or with the digits of its year. -/
theorem chars_cases (d : Day) :
    d.year < 0 ∧ d.chars = '-' :: d.unsignedChars ∨
      9999 < d.year ∧ d.chars = '+' :: d.unsignedChars ∨
      (0 ≤ d.year ∧ d.year ≤ 9999) ∧ d.chars = d.unsignedChars := by
  rw [chars_eq]
  unfold yearText unsignedChars
  by_cases hneg : d.year < 0
  · left
    simp [hneg]
  · right
    by_cases hlarge : 9999 < d.year
    · left
      simp [hneg, hlarge]
    · right
      simp only [hneg, hlarge, if_false, and_true]
      omega

theorem exists_unsignedChars_eq (d : Day) :
    ∃ c rest, d.unsignedChars = c :: rest ∧ c.isDigit = true := by
  obtain ⟨c, rest, hcons⟩ := List.exists_cons_of_ne_nil (paddedDigits_ne_nil 4 d.year.natAbs)
  refine ⟨c, rest ++ '-' :: (paddedDigits 2 d.month ++ '-' :: paddedDigits 2 d.day), ?_, ?_⟩
  · unfold unsignedChars
    rw [hcons, List.cons_append]
  · exact isDigit_of_mem_paddedDigits (n := d.year.natAbs) (by rw [hcons]; simp)

/-- The first character of a day's text. -/
theorem head_chars (d : Day) :
    ∃ c rest, d.chars = c :: rest ∧ (c = '-' ∨ c = '+' ∨ c.isDigit = true) := by
  obtain ⟨c, rest, hcons, hc⟩ := d.exists_unsignedChars_eq
  rcases d.chars_cases with ⟨-, h⟩ | ⟨-, h⟩ | ⟨-, h⟩
  · exact ⟨_, _, h, by simp⟩
  · exact ⟨_, _, h, by simp⟩
  · exact ⟨c, rest, by rw [h, hcons], by simp [hc]⟩

/-- The last character of a day's text. -/
theorem last_chars (d : Day) : ∃ front c, d.chars = front ++ [c] ∧ c.isDigit = true := by
  obtain ⟨front, c, hlast⟩ := (List.eq_nil_or_concat (paddedDigits 2 d.day)).resolve_left
    (paddedDigits_ne_nil 2 d.day)
  rw [List.concat_eq_append] at hlast
  refine ⟨yearText d.year ++ '-' :: paddedDigits 2 d.month ++ '-' :: front, c, ?_, ?_⟩
  · unfold chars
    rw [hlast, ← List.cons_append, ← List.append_assoc]
  · exact isDigit_of_mem_paddedDigits (n := d.day) (by rw [hlast]; simp)

theorem trimStart_chars (d : Day) : Text.trimStart d.chars = d.chars := by
  obtain ⟨c, rest, hcons, hc⟩ := d.head_chars
  rw [hcons]
  apply Text.trimStart_cons
  rcases hc with rfl | rfl | hc
  · decide
  · decide
  · exact Text.isBlank_of_isDigit hc

theorem trim_chars (d : Day) : Text.trim d.chars = d.chars := by
  obtain ⟨front, c, hlast, hc⟩ := d.last_chars
  unfold Text.trim
  rw [trimStart_chars, hlast]
  exact Text.trimEnd_concat (Text.isBlank_of_isDigit hc)

theorem readStrict?_chars (d : Day) : readStrict? d.chars = some d := by
  have hmonth := scanDigits?_two d.month_lt_hundred
    (head?_hyphen_cons (paddedDigits 2 d.day))
  have hday : scanDigits? 2 (Text.trimStart (paddedDigits 2 d.day)) = some (d.day, []) := by
    have hscan := scanDigits?_two d.day_lt_hundred (show ∀ c, [].head? = some c → _ by simp)
    rwa [List.append_nil] at hscan
  unfold readStrict?
  rw [trimStart_chars, chars_eq, scanYear?_yearText]
  simp only [Option.bind_eq_bind, Option.bind_some, scanHyphen?, hmonth, hday, List.isEmpty_nil,
    if_true]
  exact ofFields?_eq_some_iff.mpr ⟨rfl, rfl, rfl⟩

/-- Every day is read back from its text. -/
theorem parse_text (d : Day) : parse d.text = .ok d := by
  unfold parse text
  rw [String.toList_ofList, trim_chars, readStrict?_chars]

/-- Different days have different texts. -/
theorem text_inj {a b : Day} : a.text = b.text ↔ a = b := by
  constructor
  · intro h
    have hparse := a.parse_text
    rw [h, b.parse_text] at hparse
    exact (Except.ok.inj hparse).symm
  · intro h
    rw [h]

/-! ### Request parameters -/

/-- What stands in front and is no digit and no hyphen is skipped. -/
theorem readLenient?_skip {front cs : List Char}
    (hfront : ∀ c ∈ front, c.isDigit = false ∧ c ≠ '-') :
    readLenient? (front ++ cs) = readLenient? cs := by
  unfold readLenient?
  rw [List.dropWhile_append_of_pos]
  intro c hc
  obtain ⟨hdigit, hhyphen⟩ := hfront c hc
  simp [hdigit, hhyphen]

/-- From a digit on nothing is skipped. -/
theorem dropWhile_start {ys : List Char} (hys : (∀ c ∈ ys, c.isDigit = true) ∧ ys ≠ [])
    (rest : List Char) :
    (ys ++ rest).dropWhile (fun c => !(c.isDigit || c == '-')) = ys ++ rest := by
  obtain ⟨y, ys', hcons⟩ := List.exists_cons_of_ne_nil hys.2
  rw [hcons, List.cons_append]
  exact List.dropWhile_cons_of_neg (by simp [hys.1 y (by simp [hcons])])

/-- Three runs of digits with hyphens between them are read as a date, whatever stands behind, and in
    front of them anything but digits and hyphens. -/
theorem readLenient?_append {front ys ms ds rest : List Char}
    (hfront : ∀ c ∈ front, c.isDigit = false ∧ c ≠ '-')
    (hys : (∀ c ∈ ys, c.isDigit = true) ∧ ys ≠ []) (hms : (∀ c ∈ ms, c.isDigit = true) ∧ ms ≠ [])
    (hds : (∀ c ∈ ds, c.isDigit = true) ∧ ds ≠ [])
    (hrest : ∀ c, rest.head? = some c → c.isDigit = false) :
    readLenient? (front ++ (ys ++ '-' :: (ms ++ '-' :: (ds ++ rest)))) =
      ofFields? (digitsValue ys) (digitsValue ms) (digitsValue ds) := by
  rw [readLenient?_skip hfront]
  unfold readLenient?
  simp only [dropWhile_start hys]
  rw [scanRun?_append hys.1 hys.2 (head?_hyphen_cons _)]
  simp only [Option.bind_eq_bind, Option.bind_some, scanHyphen?]
  rw [scanRun?_append hms.1 hms.2 (head?_hyphen_cons _)]
  simp only [Option.bind_some]
  rw [scanRun?_append hds.1 hds.2 hrest]
  rfl

/-- A day of a year that is not negative is found behind anything but digits and hyphens. -/
theorem clean_append {d : Day} (hyear : 0 ≤ d.year) {front : List Char}
    (hfront : ∀ c ∈ front, c.isDigit = false ∧ c ≠ '-') :
    clean (String.ofList (front ++ d.unsignedChars)) = .ok d := by
  have hdigits : ∀ k n, (∀ c ∈ paddedDigits k n, c.isDigit = true) ∧ paddedDigits k n ≠ [] :=
    fun k n => ⟨fun c hc => isDigit_of_mem_paddedDigits hc, paddedDigits_ne_nil k n⟩
  have hend : ∀ c, ([] : List Char).head? = some c → c.isDigit = false := by
    simp
  have hread := readLenient?_append hfront (hdigits 4 d.year.natAbs) (hdigits 2 d.month)
    (hdigits 2 d.day) hend
  rw [List.append_nil, digitsValue_paddedDigits, digitsValue_paddedDigits, digitsValue_paddedDigits,
    show ((d.year.natAbs : Nat) : Int) = d.year by omega] at hread
  unfold clean unsignedChars
  rw [String.toList_ofList, hread, ofFields?_eq_some_iff.mpr ⟨rfl, rfl, rfl⟩]

theorem mem_unsignedChars {d : Day} {c : Char} (h : c ∈ d.unsignedChars) :
    c = '-' ∨ c.isDigit = true := by
  unfold unsignedChars at h
  simp only [List.mem_append, List.mem_cons] at h
  rcases h with h | h | h | h | h
  · exact .inr (isDigit_of_mem_paddedDigits h)
  · exact .inl h
  · exact .inr (isDigit_of_mem_paddedDigits h)
  · exact .inl h
  · exact .inr (isDigit_of_mem_paddedDigits h)

/-- The characters of a day's text are signs and digits. -/
theorem mem_chars {d : Day} {c : Char} (h : c ∈ d.chars) :
    c = '-' ∨ c = '+' ∨ c.isDigit = true := by
  rcases d.chars_cases with ⟨-, hchars⟩ | ⟨-, hchars⟩ | ⟨-, hchars⟩
  · rw [hchars] at h
    rcases List.mem_cons.mp h with h | h
    · exact .inl h
    · exact (mem_unsignedChars h).imp_right .inr
  · rw [hchars] at h
    rcases List.mem_cons.mp h with h | h
    · exact .inr (.inl h)
    · exact (mem_unsignedChars h).imp_right .inr
  · rw [hchars] at h
    exact (mem_unsignedChars h).imp_right .inr

end Day

end NodeReport

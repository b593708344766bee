import NodeReport.Proofs.Calendar.Month
import NodeReport.Proofs.Store.DayValue

/-! # The order of the texts of days

  Stores compare days by their texts, byte by byte. While all years have four digits this is the
  order of the days; a sign or a longer year breaks it. Days of one month, however, are told from
  all other days by their texts, whatever their year looks like:

  * `StoredValue.exists_eq_append_of_between`: what lies between two texts that start alike starts
    like them;
  * `Day.sameMonth_of_chars_eq`: a day whose text starts like that of a month is one of the month;
  * `Day.sameMonth_of_textLE`: so no day of another month lies between two of a month.
-/

namespace NodeReport

open StoredValue (compareBytes)

/-! ### Bytes between two others -/

/-- Bytes between two that start alike start like them. -/
theorem StoredValue.exists_eq_append_of_between {start as bs bytes : List UInt8}
    (hlow : (compareBytes (start ++ as) bytes).isLE = true)
    (hhigh : (compareBytes bytes (start ++ bs)).isLE = true) : ∃ rest, bytes = start ++ rest := by
  induction start generalizing bytes with
  | nil => exact ⟨bytes, rfl⟩
  | cons b start ih =>
    cases bytes with
    | nil => cases hlow
    | cons c bytes =>
      simp only [List.cons_append, compareBytes, Ordering.isLE_then_iff_or] at hlow hhigh
      -- the first byte is neither less nor greater than the common one
      have hle : b.toNat ≤ c.toNat := by
        rcases hlow with hlt | ⟨heq, -⟩
        · exact Nat.le_of_lt (Nat.compare_eq_lt.mp hlt)
        · exact Nat.le_of_eq (Nat.compare_eq_eq.mp heq)
      rcases hhigh with hlt | ⟨heq, hhigh⟩
      · have := Nat.compare_eq_lt.mp hlt
        omega
      · have hsame : c = b := UInt8.toNat_inj.mp (Nat.compare_eq_eq.mp heq)
        rcases hlow with hlt | ⟨-, hlow⟩
        · have := Nat.compare_eq_lt.mp hlt
          rw [hsame] at this
          omega
        · obtain ⟨rest, hrest⟩ := ih hlow hhigh
          exact ⟨rest, by rw [hsame, hrest, List.cons_append]⟩

namespace Day

/-! ### Texts of days -/

/-- Whether the text of a day is, byte by byte, not greater than that of another one. -/
def TextLE (a b : Day) : Prop :=
  (compareBytes (Text.utf8 a.text) (Text.utf8 b.text)).isLE = true

instance (a b : Day) : Decidable (TextLE a b) :=
  inferInstanceAs (Decidable (_ = true))

/-- Texts of days with plain years are ordered like the days. -/
theorem HasPlainYear.textLE_iff {a b : Day} (ha : a.HasPlainYear) (hb : b.HasPlainYear) :
    TextLE a b ↔ a ≤ b := by
  unfold TextLE
  rw [StoredValue.compareBytes_text ha hb, le_def]
  exact Int.isLE_compare

/-- With a minus sign the later year has the smaller text. -/
example : (⟨-2, 1, 1, by decide⟩ : Day) ≤ ⟨-1, 1, 1, by decide⟩ ∧
    ¬TextLE ⟨-2, 1, 1, by decide⟩ ⟨-1, 1, 1, by decide⟩ := by decide

/-! ### Texts of days of a month -/

/-- Texts of days of one month differ in the day of the month only. -/
theorem SameMonth.compareBytes_text {a b : Day} (h : SameMonth a b) :
    compareBytes (Text.utf8 a.text) (Text.utf8 b.text) = compare a.day b.day := by
  have hday : ∀ d : Day, (paddedDigits 2 d.day).length = 2 :=
    fun d => length_paddedDigits (by decide) d.day_lt_hundred
  -- year and month are written alike, whatever they look like, and the day has two digits
  rw [StoredValue.utf8_text, StoredValue.utf8_text, a.chars_eq, b.chars_eq, h.1, h.2,
    StoredValue.utf8Bytes_append, StoredValue.utf8Bytes_append,
    StoredValue.compareBytes_append _ _ rfl, StoredValue.compareBytes_self, Ordering.eq_then,
    StoredValue.compareBytes_hyphen, StoredValue.compareBytes_paddedDigits_append _ _ rfl,
    Nat.compare_eq_eq.mpr rfl, Ordering.eq_then, StoredValue.compareBytes_hyphen,
    StoredValue.compareBytes_paddedDigits (by rw [hday, hday])]

/-- In a month an earlier day has an earlier text, whatever the sign and the length of the year. -/
theorem SameMonth.textLE {a b : Day} (h : SameMonth a b) (hle : a ≤ b) : TextLE a b := by
  have hnumber := h.number_eq
  rw [le_def] at hle
  unfold TextLE
  rw [h.compareBytes_text, Nat.isLE_compare]
  omega

/-- What the texts of all days of a day's month start with. -/
def monthChars (d : Day) : List Char :=
  yearText d.year ++ '-' :: (paddedDigits 2 d.month ++ ['-'])

theorem chars_eq_monthChars (d : Day) : d.chars = d.monthChars ++ paddedDigits 2 d.day := by
  rw [chars_eq]
  unfold monthChars
  simp only [List.append_assoc, List.cons_append, List.nil_append]

/-- A day whose text starts like those of a month is one of the month, since year and month can be
    read back. -/
theorem sameMonth_of_chars_eq {d e : Day} {rest : List Char} (h : e.chars = d.monthChars ++ rest) :
    SameMonth e d := by
  rw [chars_eq] at h
  unfold monthChars at h
  simp only [List.append_assoc, List.cons_append, List.nil_append] at h
  have hyear := congrArg scanYear? h
  rw [scanYear?_yearText, scanYear?_yearText] at hyear
  obtain ⟨hyear, hbehind⟩ := Prod.mk.inj (Option.some.inj hyear)
  have hmonth := congrArg (fun cs => scanDigits? 2 (Text.trimStart cs)) (List.cons.inj hbehind).2
  rw [scanDigits?_two e.month_lt_hundred (head?_hyphen_cons _),
    scanDigits?_two d.month_lt_hundred (head?_hyphen_cons _)] at hmonth
  exact ⟨hyear, (Prod.mk.inj (Option.some.inj hmonth)).1⟩

/-- Between the texts of two days of a month there are only texts of days of the month. -/
theorem sameMonth_of_textLE {a b e : Day} (h : SameMonth a b) (hlow : TextLE a e)
    (hhigh : TextLE e b) : SameMonth e a := by
  have hstart : b.monthChars = a.monthChars := by
    unfold monthChars
    rw [h.1, h.2]
  have hascii : ∀ c ∈ a.monthChars, c.toNat < 128 := by
    intro c hc
    apply StoredValue.toNat_lt_of_mem_chars (d := a)
    rw [chars_eq_monthChars]
    exact List.mem_append_left _ hc
  unfold TextLE at hlow hhigh
  rw [StoredValue.utf8_text, StoredValue.utf8_text, chars_eq_monthChars,
    StoredValue.utf8Bytes_append] at hlow
  rw [StoredValue.utf8_text, StoredValue.utf8_text, b.chars_eq_monthChars, hstart,
    StoredValue.utf8Bytes_append] at hhigh
  obtain ⟨rest, hrest⟩ := StoredValue.exists_eq_append_of_between hlow hhigh
  -- all of it is ASCII, so that the bytes give the characters back
  have hchars := congrArg (List.map fun b => Char.ofNat b.toNat) hrest
  rw [List.map_append, StoredValue.map_ofNat_utf8Bytes hascii,
    StoredValue.map_ofNat_utf8Bytes fun c hc => StoredValue.toNat_lt_of_mem_chars hc] at hchars
  exact sameMonth_of_chars_eq hchars

/-- The text of a day is a key to it. It is read back as the day; texts of years with four digits
    are ordered like the days; and the texts between those of the first and the last day of a month
    are those of its days, in all years. -/
theorem text_tells_day_and_month (d e : Day) :
    parse d.text = .ok d ∧ (d.HasPlainYear → e.HasPlainYear → (d ≤ e ↔ TextLE d e)) ∧
      (TextLE d.monthStart e ∧ TextLE e d.monthEnd ↔ SameMonth e d) := by
  obtain ⟨hstart, -⟩ := d.monthStart_spec
  obtain ⟨hend, -⟩ := d.monthEnd_spec
  refine ⟨d.parse_text, ?_, ?_⟩
  · intro hd he
    exact (hd.textLE_iff he).symm
  · constructor
    · rintro ⟨hlow, hhigh⟩
      exact (sameMonth_of_textLE (hstart.trans hend.symm) hlow hhigh).trans hstart
    · intro h
      obtain ⟨hlow, hhigh⟩ := monthStart_le_and_le_monthEnd_iff.mpr h
      exact ⟨(hstart.trans h.symm).textLE hlow, (h.trans hend.symm).textLE hhigh⟩

/-- The last day before the year 1000 and the first one of it, which do not share a month. -/
theorem text_tells_day_and_month_millennium :
    (⟨999, 12, 31, by decide⟩ : Day).HasPlainYear ∧ (⟨1000, 1, 1, by decide⟩ : Day).HasPlainYear ∧
      TextLE ⟨999, 12, 31, by decide⟩ ⟨1000, 1, 1, by decide⟩ ∧
      ¬TextLE ⟨1000, 1, 1, by decide⟩ (⟨999, 12, 31, by decide⟩ : Day).monthEnd := by
  have hearlier : (⟨999, 12, 31, by decide⟩ : Day).HasPlainYear := ⟨by decide, by decide⟩
  have hlater : (⟨1000, 1, 1, by decide⟩ : Day).HasPlainYear := ⟨by decide, by decide⟩
  obtain ⟨-, horder, hmonth⟩ :=
    text_tells_day_and_month ⟨999, 12, 31, by decide⟩ ⟨1000, 1, 1, by decide⟩
  have hfirst : TextLE (⟨999, 12, 31, by decide⟩ : Day).monthStart ⟨1000, 1, 1, by decide⟩ := by
    decide
  refine ⟨hearlier, hlater, (horder hearlier hlater).mp (by decide), ?_⟩
  intro hlast
  exact absurd (hmonth.mp ⟨hfirst, hlast⟩).1 (by decide)

end Day

end NodeReport

import NodeReport.Proofs.Calendar.DayText
import NodeReport.Proofs.Store.Value

/-! # Days as stored values

  A day is stored as its text. No column takes the text for a number, the text is read back as it
  is, and as long as all years have four digits the order of the bytes is that of the days.
-/

namespace NodeReport

/-- The days whose years are written with four digits and no sign. -/
def Day.HasPlainYear (d : Day) : Prop :=
  0 ≤ d.year ∧ d.year ≤ 9999

theorem Day.HasPlainYear.of_between {a b d : Day} (ha : a.HasPlainYear) (hb : b.HasPlainYear)
    (hlow : a ≤ d) (hhigh : d ≤ b) : d.HasPlainYear :=
  ⟨Int.le_trans ha.1 (Day.year_le_of_le hlow), Int.le_trans (Day.year_le_of_le hhigh) hb.2⟩

/-- A plain year has no sign. -/
theorem Day.HasPlainYear.chars_eq {d : Day} (h : d.HasPlainYear) : d.chars = d.unsignedChars := by
  rcases d.chars_cases with ⟨hneg, -⟩ | ⟨hlarge, -⟩ | ⟨-, hchars⟩
  · exact absurd h.1 (by omega)
  · exact absurd h.2 (by omega)
  · exact hchars

/-- A plain year has four digits. -/
theorem Day.HasPlainYear.length_year {d : Day} (h : d.HasPlainYear) :
    (paddedDigits 4 d.year.natAbs).length = 4 := by
  obtain ⟨hlow, hhigh⟩ := h
  exact length_paddedDigits (by decide) (show d.year.natAbs < 10000 by omega)

namespace StoredValue

/-! ### Reading back -/

@[simp] theorem toCell_ofText (s : String) : (ofText s).toCell = .text s := by
  simp [ofText, toCell]

/-! ### Characters of day texts -/

theorem toNat_lt_of_mem_chars {d : Day} {c : Char} (h : c ∈ d.chars) : c.toNat < 128 := by
  rcases Day.mem_chars h with rfl | rfl | hdigit
  · decide
  · decide
  · exact toNat_lt_of_isDigit hdigit

/-- Bytes of ASCII, taken one by one, are the characters. -/
theorem map_ofNat_utf8Bytes {cs : List Char} (h : ∀ c ∈ cs, c.toNat < 128) :
    (Text.utf8Bytes cs).map (fun b => Char.ofNat b.toNat) = cs := by
  induction cs with
  | nil => rfl
  | cons c cs ih =>
    have hc := h c (by simp)
    rw [utf8Bytes_cons_of_lt hc, List.map_cons, ih fun d hd => h d (by simp [hd]),
      Text.toNat_ofNat_of_lt (by omega), Char.ofNat_toNat]

theorem utf8_text (d : Day) : Text.utf8 d.text = Text.utf8Bytes d.chars := by
  unfold Text.utf8 Day.text
  rw [String.toList_ofList]

/-- A byte of ASCII is the number of a character. -/
theorem exists_of_mem_utf8Bytes {cs : List Char} (h : ∀ c ∈ cs, c.toNat < 128) {b : UInt8}
    (hb : b ∈ Text.utf8Bytes cs) : ∃ c ∈ cs, b.toNat = c.toNat := by
  obtain ⟨c, hc, hb⟩ := List.mem_flatMap.mp hb
  refine ⟨c, hc, ?_⟩
  have hone := utf8Bytes_cons_of_lt (h c hc) []
  rw [Text.utf8Bytes, List.flatMap_singleton] at hone
  rw [hone] at hb
  rw [List.mem_singleton.mp hb, Text.toNat_ofNat_of_lt (by have := h c hc; omega)]

/-- Signs and digits stand between the space and the letters. -/
theorem isPlain_text (d : Day) : Collation.IsPlain (Text.utf8 d.text) := by
  intro b hb
  rw [utf8_text] at hb
  obtain ⟨c, hc, hcode⟩ := exists_of_mem_utf8Bytes (fun c => toNat_lt_of_mem_chars) hb
  rw [hcode]
  rcases Day.mem_chars hc with rfl | rfl | hdigit
  · decide
  · decide
  · have := toNat_of_isDigit hdigit
    omega

/-- Every collation orders the texts of days byte by byte. -/
theorem compare_text (c : Collation) (a b : Day) :
    c.compare (Text.utf8 a.text) (Text.utf8 b.text) =
      compareBytes (Text.utf8 a.text) (Text.utf8 b.text) :=
  c.compare_of_isPlain (isPlain_text a) (isPlain_text b)

/-! ### No number -/

theorem readDigits?_eq_none_of_mem {cs : List Char} (h : '-' ∈ cs) : readDigits? cs = none := by
  unfold readDigits?
  have hall : cs.all Char.isDigit = false := List.all_eq_false.mpr ⟨'-', h, by decide⟩
  simp [hall]

/-- A hyphen after the first character keeps a text from being an integer. -/
theorem readInt?_eq_none_of_mem {low high : Int} {c : Char} {cs : List Char} (h : '-' ∈ cs) :
    readInt? low high (c :: cs) = none := by
  unfold readInt?
  simp only
  split
  · rename_i heq
    cases heq
    rw [readDigits?_eq_none_of_mem h]
    rfl
  · rename_i heq
    cases heq
    rw [readDigits?_eq_none_of_mem h]
    rfl
  · rw [readDigits?_eq_none_of_mem (List.mem_cons_of_mem _ h)]
    rfl

theorem splitSign_chars (d : Day) : (DecimalNumber.splitSign d.chars).2 = d.unsignedChars := by
  rcases d.chars_cases with ⟨-, h⟩ | ⟨-, h⟩ | ⟨-, h⟩
  · rw [h]
    rfl
  · rw [h]
    rfl
  · obtain ⟨c, rest, hcons, hc⟩ := d.exists_unsignedChars_eq
    rw [h, hcons, DecimalNumber.splitSign_of_isDigit hc]

/-- Digits before a hyphen are no decimal number: neither a point nor an exponent follows. -/
theorem readUnsigned?_hyphen {negative : Bool} {ds cs : List Char}
    (hds : ∀ c ∈ ds, c.isDigit = true) :
    DecimalNumber.readUnsigned? negative (ds ++ '-' :: cs) = none := by
  have htake := takeWhile_isDigit_append hds (Day.head?_hyphen_cons cs)
  have hdrop := dropWhile_isDigit_append hds (Day.head?_hyphen_cons cs)
  have hexponent : DecimalNumber.readExponent? ('-' :: cs) = none := by
    unfold DecimalNumber.readExponent?
    exact if_neg (by decide)
  unfold DecimalNumber.readUnsigned?
  simp only [htake, hdrop]
  split
  · rename_i heq
    cases heq
  · simp [hexponent]

theorem read?_chars (d : Day) : DecimalNumber.read? d.chars = none := by
  unfold DecimalNumber.read?
  simp only
  rw [splitSign_chars]
  exact readUnsigned?_hyphen fun c hc => isDigit_of_mem_paddedDigits hc

theorem hyphen_mem_tail_chars (d : Day) : ∃ c rest, d.chars = c :: rest ∧ '-' ∈ rest := by
  obtain ⟨c, rest, hcons, hc⟩ := d.exists_unsignedChars_eq
  have hmem : '-' ∈ d.unsignedChars := by
    unfold Day.unsignedChars
    simp
  rcases d.chars_cases with ⟨-, h⟩ | ⟨-, h⟩ | ⟨-, h⟩
  · exact ⟨_, _, h, hmem⟩
  · exact ⟨_, _, h, hmem⟩
  · refine ⟨c, rest, by rw [h, hcons], ?_⟩
    rw [hcons] at hmem
    rcases List.mem_cons.mp hmem with heq | hrest
    · rw [← heq] at hc
      exact absurd hc (by decide)
    · exact hrest

theorem isNumberBlank_of_isDigit {c : Char} (h : c.isDigit = true) :
    Affinity.isNumberBlank c = false := by
  have hc := toNat_of_isDigit h
  have hne : c ≠ ' ' := by
    rintro rfl
    exact absurd h (by decide)
  simp [Affinity.isNumberBlank, hne]
  omega

/-- The text of a day is no number. -/
theorem numberOf?_text (d : Day) : Affinity.numberOf? (Text.utf8 d.text) = none := by
  have hchars : (Text.utf8 d.text).map (fun b => Char.ofNat b.toNat) = d.chars := by
    rw [utf8_text, map_ofNat_utf8Bytes fun c hc => toNat_lt_of_mem_chars hc]
  have hstart : d.chars.dropWhile Affinity.isNumberBlank = d.chars := by
    obtain ⟨c, rest, hcons, hc⟩ := d.head_chars
    rw [hcons]
    apply List.dropWhile_cons_of_neg
    rcases hc with rfl | rfl | hc
    · decide
    · decide
    · simp [isNumberBlank_of_isDigit hc]
  have hend : Text.dropRightWhile Affinity.isNumberBlank d.chars = d.chars := by
    obtain ⟨front, c, hlast, hc⟩ := d.last_chars
    rw [hlast]
    exact Text.dropRightWhile_concat (isNumberBlank_of_isDigit hc)
  -- neither an integer nor a decimal number goes on behind a hyphen
  unfold Affinity.numberOf?
  simp only [hchars, hstart, hend]
  obtain ⟨c, rest, hcons, hmem⟩ := hyphen_mem_tail_chars d
  rw [show readInt64? d.chars = none by rw [hcons]; exact readInt?_eq_none_of_mem hmem]
  rw [read?_chars]
  rfl

/-- Every column keeps the text of a day as it is. -/
@[simp] theorem apply_text (a : Affinity) (d : Day) :
    a.apply (ofText d.text) = ofText d.text := by
  cases a with
  | anything => rfl
  | numeric =>
    show (Affinity.numberOf? (Text.utf8 d.text)).getD (.text (Text.utf8 d.text)) = _
    rw [numberOf?_text]
    rfl
  | text => rfl

/-! ### Order -/

/-- Digits of the same length are ordered like the numbers that they write. -/
theorem compareBytes_paddedDigits {k m n : Nat}
    (hlen : (paddedDigits k m).length = (paddedDigits k n).length) :
    compareBytes (Text.utf8Bytes (paddedDigits k m)) (Text.utf8Bytes (paddedDigits k n)) =
      compare m n := by
  have hdigits := compareBytes_digits hlen (fun c hc => isDigit_of_mem_paddedDigits hc)
    (fun c hc => isDigit_of_mem_paddedDigits hc)
  rwa [digitsValue_paddedDigits, digitsValue_paddedDigits] at hdigits

/-- What stands behind such digits matters only between equal numbers. -/
theorem compareBytes_paddedDigits_append {k m n : Nat} (cs ds : List Char)
    (hlen : (paddedDigits k m).length = (paddedDigits k n).length) :
    compareBytes (Text.utf8Bytes (paddedDigits k m ++ cs)) (Text.utf8Bytes (paddedDigits k n ++ ds)) =
      (compare m n).then (compareBytes (Text.utf8Bytes cs) (Text.utf8Bytes ds)) := by
  have hbytes : ∀ i : Nat,
      (Text.utf8Bytes (paddedDigits k i)).length = (paddedDigits k i).length :=
    fun i => length_utf8Bytes_of_lt fun c hc => toNat_lt_of_isDigit (isDigit_of_mem_paddedDigits hc)
  rw [utf8Bytes_append, utf8Bytes_append, compareBytes_append _ _ (by rw [hbytes, hbytes, hlen]),
    compareBytes_paddedDigits hlen]

theorem compareBytes_hyphen (cs ds : List Char) :
    compareBytes (Text.utf8Bytes ('-' :: cs)) (Text.utf8Bytes ('-' :: ds)) =
      compareBytes (Text.utf8Bytes cs) (Text.utf8Bytes ds) := by
  rw [utf8Bytes_cons_of_lt (by decide), utf8Bytes_cons_of_lt (by decide), compareBytes,
    Nat.compare_eq_eq.mpr rfl]
  rfl

/-- Years that are not negative are ordered like their digits. -/
theorem compare_natAbs {a b : Int} (ha : 0 ≤ a) (hb : 0 ≤ b) :
    compare a.natAbs b.natAbs = compare a b := by
  rcases Int.lt_trichotomy a b with h | h | h
  · rw [Int.compare_eq_lt.mpr h, Nat.compare_eq_lt.mpr (by omega)]
  · rw [Int.compare_eq_eq.mpr h, Nat.compare_eq_eq.mpr (by omega)]
  · rw [Int.compare_eq_gt.mpr h, Nat.compare_eq_gt.mpr (by omega)]

/-- Texts of days with plain years are ordered like the days. -/
theorem compareBytes_text {a b : Day} (ha : a.HasPlainYear) (hb : b.HasPlainYear) :
    compareBytes (Text.utf8 a.text) (Text.utf8 b.text) = compare a.number b.number := by
  have hmonth : ∀ d : Day, (paddedDigits 2 d.month).length = 2 :=
    fun d => length_paddedDigits (by decide) d.month_lt_hundred
  have hday : ∀ d : Day, (paddedDigits 2 d.day).length = 2 :=
    fun d => length_paddedDigits (by decide) d.day_lt_hundred
  -- year, month and day decide one after another, each by as many digits on both sides
  rw [utf8_text, utf8_text, ha.chars_eq, hb.chars_eq]
  unfold Day.unsignedChars
  rw [compareBytes_paddedDigits_append _ _ (by rw [ha.length_year, hb.length_year]),
    compareBytes_hyphen, compareBytes_paddedDigits_append _ _ (by rw [hmonth, hmonth]),
    compareBytes_hyphen, compareBytes_paddedDigits (by rw [hday, hday]), compare_natAbs ha.1 hb.1,
    Day.compare_number]

end StoredValue

end NodeReport

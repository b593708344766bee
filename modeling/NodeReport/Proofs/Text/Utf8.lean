import NodeReport.Text.Utf8

/-! # Texts and their bytes

  Reading the bytes of a text gives the text back, so two texts with the same bytes are the same.
  The reader is followed byte by byte: each character is read from the state between two characters
  and ends in it again. Bytes are ordered like the characters that they stand for.
-/

namespace NodeReport.Text

/-! ### Steps of the reader -/

theorem decodeFrom_none_cons (b : UInt8) (bs : List UInt8) :
    decodeFrom none (b :: bs) =
      (readFirst b.toNat).1 ++ decodeFrom (readFirst b.toNat).2 bs := rfl

theorem decodeFrom_some_cons (p : PartialChar) (b : UInt8) (bs : List UInt8) :
    decodeFrom (some p) (b :: bs) = (p.read b.toNat).1 ++ decodeFrom (p.read b.toNat).2 bs := rfl

theorem readFirst_of_start {b : Nat} {p : PartialChar} (hb : 0x80 ≤ b)
    (h : PartialChar.start? b = some p) : readFirst b = ([], some p) := by
  unfold readFirst
  rw [if_neg (by omega), h]

/-- A byte that fits leaves one byte less to come. -/
theorem PartialChar.read_of_further {p : PartialChar} {b k : Nat} (hfit : p.low ≤ b ∧ b ≤ p.high)
    (hk : p.further = k + 1) :
    p.read b = ([], some ⟨p.bits * 64 + (b - 0x80), k, 0x80, 0xBF⟩) := by
  unfold PartialChar.read
  rw [if_pos hfit, hk]

/-- The last byte of a character gives the character. -/
theorem PartialChar.read_of_last {p : PartialChar} {b : Nat} (hfit : p.low ≤ b ∧ b ≤ p.high)
    (hk : p.further = 0) : p.read b = ([Char.ofNat (p.bits * 64 + (b - 0x80))], none) := by
  unfold PartialChar.read
  rw [if_pos hfit, hk]

/-! ### First bytes -/

theorem PartialChar.start?_two {k : Nat} (hlow : 2 ≤ k) (hhigh : k < 32) :
    PartialChar.start? (k + 0xC0) = some ⟨k, 0, 0x80, 0xBF⟩ := by
  unfold PartialChar.start?
  rw [if_pos (by omega)]
  simp

/-- A first byte of three, together with the bounds that it sets for the second one. -/
theorem PartialChar.start?_three (k next : Nat) (hk : k < 16) (hnext : next < 64)
    (hshort : k = 0 → 32 ≤ next) (hsurrogate : k = 13 → next < 32) :
    ∃ low high, PartialChar.start? (k + 0xE0) = some ⟨k, 1, low, high⟩ ∧
      low ≤ next + 0x80 ∧ next + 0x80 ≤ high := by
  unfold PartialChar.start?
  rw [if_neg (by omega)]
  by_cases h0 : k = 0
  · refine ⟨0xA0, 0xBF, ?_, by omega, by omega⟩
    simp [h0]
  · rw [if_neg (by omega)]
    by_cases h13 : k = 13
    · refine ⟨0x80, 0x9F, ?_, by omega, by omega⟩
      simp [h13]
    · refine ⟨0x80, 0xBF, ?_, by omega, by omega⟩
      rw [if_neg (by omega), if_pos (by omega)]
      simp

/-- A first byte of four, together with the bounds that it sets for the second one. -/
theorem PartialChar.start?_four (k next : Nat) (hk : k ≤ 4) (hnext : next < 64)
    (hshort : k = 0 → 16 ≤ next) (hlarge : k = 4 → next < 16) :
    ∃ low high, PartialChar.start? (k + 0xF0) = some ⟨k, 2, low, high⟩ ∧
      low ≤ next + 0x80 ∧ next + 0x80 ≤ high := by
  unfold PartialChar.start?
  rw [if_neg (by omega), if_neg (by omega), if_neg (by omega), if_neg (by omega)]
  by_cases h0 : k = 0
  · refine ⟨0x90, 0xBF, ?_, by omega, by omega⟩
    simp [h0]
  · rw [if_neg (by omega)]
    by_cases h4 : k = 4
    · refine ⟨0x80, 0x8F, ?_, by omega, by omega⟩
      simp [h4]
    · refine ⟨0x80, 0xBF, ?_, by omega, by omega⟩
      rw [if_pos (by omega)]
      simp

/-! ### Characters -/

/-- The number of a character is no surrogate and not too large. -/
theorem toNat_valid (c : Char) : c.toNat < 0xD800 ∨ 0xDFFF < c.toNat ∧ c.toNat < 0x110000 :=
  c.valid

theorem toNat_ofNat_of_lt {n : Nat} (h : n < 256) : (UInt8.ofNat n).toNat = n := by
  rw [UInt8.toNat_ofNat']
  exact Nat.mod_eq_of_lt h

/-! The bytes of one character, by their number: the first byte leaves the upper bits of the
    character's number, and each further one appends six bits to them. -/

theorem decodeFrom_one {v : Nat} (hv : v ≤ 0x7f) (bs : List UInt8) :
    decodeFrom none (UInt8.ofNat v :: bs) = Char.ofNat v :: decodeFrom none bs := by
  rw [decodeFrom_none_cons, toNat_ofNat_of_lt (by omega)]
  unfold readFirst
  rw [if_pos (by omega)]
  rfl

theorem decodeFrom_two {v : Nat} (hlow : 0x7f < v) (hhigh : v ≤ 0x7ff) (bs : List UInt8) :
    decodeFrom none (UInt8.ofNat (v / 64 % 32 + 0xC0) :: UInt8.ofNat (v % 64 + 0x80) :: bs) =
      Char.ofNat v :: decodeFrom none bs := by
  rw [decodeFrom_none_cons, toNat_ofNat_of_lt (by omega),
    readFirst_of_start (by omega) (PartialChar.start?_two (by omega) (by omega)),
    decodeFrom_some_cons, toNat_ofNat_of_lt (by omega),
    PartialChar.read_of_last ⟨by simp only; omega, by simp only; omega⟩ rfl]
  have hbits : v / 64 % 32 * 64 + (v % 64 + 128 - 128) = v := by omega
  simp only [List.nil_append, hbits]
  rfl

theorem decodeFrom_three {v : Nat} (hlow : 0x7ff < v) (hhigh : v ≤ 0xffff)
    (hvalid : v < 0xD800 ∨ 0xDFFF < v) (bs : List UInt8) :
    decodeFrom none (UInt8.ofNat (v / 4096 % 16 + 0xE0) :: UInt8.ofNat (v / 64 % 64 + 0x80) ::
      UInt8.ofNat (v % 64 + 0x80) :: bs) = Char.ofNat v :: decodeFrom none bs := by
  obtain ⟨low, high, hstart, hnext⟩ := PartialChar.start?_three (v / 4096 % 16) (v / 64 % 64)
    (by omega) (by omega) (by omega) (by omega)
  rw [decodeFrom_none_cons, toNat_ofNat_of_lt (by omega), readFirst_of_start (by omega) hstart,
    decodeFrom_some_cons, toNat_ofNat_of_lt (by omega), PartialChar.read_of_further hnext rfl,
    decodeFrom_some_cons, toNat_ofNat_of_lt (by omega),
    PartialChar.read_of_last ⟨by simp only; omega, by simp only; omega⟩ rfl]
  have hbits : (v / 4096 % 16 * 64 + (v / 64 % 64 + 128 - 128)) * 64 + (v % 64 + 128 - 128) = v := by
    omega
  simp only [List.nil_append, hbits]
  rfl

theorem decodeFrom_four {v : Nat} (hlow : 0xffff < v) (hhigh : v < 0x110000) (bs : List UInt8) :
    decodeFrom none (UInt8.ofNat (v / 262144 % 8 + 0xF0) :: UInt8.ofNat (v / 4096 % 64 + 0x80) ::
      UInt8.ofNat (v / 64 % 64 + 0x80) :: UInt8.ofNat (v % 64 + 0x80) :: bs) =
      Char.ofNat v :: decodeFrom none bs := by
  obtain ⟨low, high, hstart, hnext⟩ := PartialChar.start?_four (v / 262144 % 8) (v / 4096 % 64)
    (by omega) (by omega) (by omega) (by omega)
  rw [decodeFrom_none_cons, toNat_ofNat_of_lt (by omega), readFirst_of_start (by omega) hstart,
    decodeFrom_some_cons, toNat_ofNat_of_lt (by omega), PartialChar.read_of_further hnext rfl,
    decodeFrom_some_cons, toNat_ofNat_of_lt (by omega),
    PartialChar.read_of_further ⟨by simp only; omega, by simp only; omega⟩ rfl,
    decodeFrom_some_cons, toNat_ofNat_of_lt (by omega),
    PartialChar.read_of_last ⟨by simp only; omega, by simp only; omega⟩ rfl]
  have hbits : ((v / 262144 % 8 * 64 + (v / 4096 % 64 + 128 - 128)) * 64
      + (v / 64 % 64 + 128 - 128)) * 64 + (v % 64 + 128 - 128) = v := by
    omega
  simp only [List.nil_append, hbits]
  rfl

/-- Between two characters the bytes of a character are read as this character. -/
theorem decodeFrom_utf8EncodeChar (c : Char) (bs : List UInt8) :
    decodeFrom none (String.utf8EncodeChar c ++ bs) = c :: decodeFrom none bs := by
  have hvalid := toNat_valid c
  have hback : Char.ofNat c.toNat = c := Char.ofNat_toNat c
  have hval : c.val.toNat = c.toNat := rfl
  unfold String.utf8EncodeChar
  simp only [hval]
  by_cases h1 : c.toNat ≤ 0x7f
  · rw [if_pos h1, List.cons_append, List.nil_append, decodeFrom_one h1, hback]
  rw [if_neg h1]
  by_cases h2 : c.toNat ≤ 0x7ff
  · rw [if_pos h2]
    simp only [List.cons_append, List.nil_append]
    rw [decodeFrom_two (by omega) h2, hback]
  rw [if_neg h2]
  by_cases h3 : c.toNat ≤ 0xffff
  · rw [if_pos h3]
    simp only [List.cons_append, List.nil_append]
    rw [decodeFrom_three (by omega) h3 (by omega), hback]
  · rw [if_neg h3]
    simp only [List.cons_append, List.nil_append]
    rw [decodeFrom_four (by omega) (by omega), hback]

/-! ### Texts -/

@[simp] theorem decode_utf8Bytes (cs : List Char) : decode (utf8Bytes cs) = cs := by
  induction cs with
  | nil => rfl
  | cons c cs ih =>
    show decodeFrom none (utf8Bytes (c :: cs)) = c :: cs
    have hbytes : utf8Bytes (c :: cs) = String.utf8EncodeChar c ++ utf8Bytes cs := rfl
    rw [hbytes, decodeFrom_utf8EncodeChar]
    exact congrArg (c :: ·) ih

/-- Reading the bytes of a text gives its characters. -/
@[simp] theorem decode_utf8 (s : String) : decode (utf8 s) = s.toList :=
  decode_utf8Bytes s.toList

theorem utf8_inj {s t : String} : utf8 s = utf8 t ↔ s = t := by
  constructor
  · intro h
    have hchars : s.toList = t.toList := by
      rw [← decode_utf8 s, h, decode_utf8 t]
    exact String.toList_inj.mp hchars
  · intro h
    rw [h]

/-! ### The order of bytes -/

theorem ofNat_cons_lt_iff {a b : Nat} (ha : a < 256) (hb : b < 256) {as bs : List UInt8} :
    UInt8.ofNat a :: as < UInt8.ofNat b :: bs ↔ a < b ∨ a = b ∧ as < bs := by
  rw [List.cons_lt_cons_iff, UInt8.lt_iff_toNat_lt, ← UInt8.toNat_inj, toNat_ofNat_of_lt ha,
    toNat_ofNat_of_lt hb]

/-- The first byte of the character with this number. -/
def firstByte (n : Nat) : Nat :=
  if n ≤ 0x7f then n
  else if n ≤ 0x7ff then n / 64 % 32 + 0xC0
  else if n ≤ 0xffff then n / 4096 % 16 + 0xE0
  else n / 262144 % 8 + 0xF0

theorem firstByte_lt (n : Nat) : firstByte n < 256 := by
  unfold firstByte
  grind

theorem firstByte_le {m n : Nat} (h : m ≤ n) (hn : n < 0x110000) : firstByte m ≤ firstByte n := by
  unfold firstByte
  grind

/-- How many bytes follow the first one of the character with this number. -/
def furtherCount (n : Nat) : Nat :=
  if n ≤ 0x7f then 0
  else if n ≤ 0x7ff then 1
  else if n ≤ 0xffff then 2
  else 3

/-- A number without its last so many groups of six bits. -/
def leadingBits : Nat → Nat → Nat
  | 0, n => n
  | count + 1, n => leadingBits count n / 64

theorem leadingBits_le {count m n : Nat} (h : m ≤ n) : leadingBits count m ≤ leadingBits count n := by
  induction count with
  | zero => exact h
  | succ count ih => exact Nat.div_le_div_right ih

/-- The bytes of the last so many groups of six bits of a number. -/
def furtherBytes : Nat → Nat → List UInt8
  | 0, _ => []
  | count + 1, n => UInt8.ofNat (leadingBits count n % 64 + 0x80) :: furtherBytes count n

theorem utf8EncodeChar_eq (c : Char) :
    String.utf8EncodeChar c =
      UInt8.ofNat (firstByte c.toNat) :: furtherBytes (furtherCount c.toNat) c.toNat := by
  have hval : c.val.toNat = c.toNat := rfl
  unfold String.utf8EncodeChar firstByte furtherCount
  simp only [hval]
  split
  · rfl
  · split
    · simp [furtherBytes, leadingBits]
    · split
      · simp [furtherBytes, leadingBits]
      · simp [furtherBytes, leadingBits, Nat.div_div_eq_div_mul]

/-- The first byte tells how many bytes follow, and the bits that are not in them. -/
theorem eq_of_firstByte_eq {m n : Nat} (h : firstByte m = firstByte n) (hm : m < 0x110000)
    (hn : n < 0x110000) :
    furtherCount m = furtherCount n ∧
      leadingBits (furtherCount m) m = leadingBits (furtherCount n) n := by
  unfold firstByte at h
  unfold furtherCount
  grind [leadingBits]

/-- Of two numbers that differ in the last groups of bits only, the greater one has the greater
    bytes. -/
theorem furtherBytes_append_lt {count m n : Nat} (h : m < n)
    (hlead : leadingBits count m = leadingBits count n) (as bs : List UInt8) :
    furtherBytes count m ++ as < furtherBytes count n ++ bs := by
  induction count with
  | zero => exact absurd hlead (Nat.ne_of_lt h)
  | succ count ih =>
    have hle : leadingBits count m ≤ leadingBits count n := leadingBits_le (Nat.le_of_lt h)
    rw [leadingBits, leadingBits] at hlead
    rw [furtherBytes, furtherBytes, List.cons_append, List.cons_append,
      ofNat_cons_lt_iff (by omega) (by omega)]
    by_cases hgroup : leadingBits count m = leadingBits count n
    · exact .inr ⟨by rw [hgroup], ih hgroup⟩
    · -- the numbers differ in this group already, and agree before it
      exact .inl (by omega)

theorem utf8EncodeChar_append_lt {c d : Char} (h : c < d) (as bs : List UInt8) :
    String.utf8EncodeChar c ++ as < String.utf8EncodeChar d ++ bs := by
  have hlt : c.toNat < d.toNat := h
  have hd : d.toNat < 0x110000 := by
    have hvalid := toNat_valid d
    omega
  rw [utf8EncodeChar_eq, utf8EncodeChar_eq, List.cons_append, List.cons_append,
    ofNat_cons_lt_iff (firstByte_lt _) (firstByte_lt _)]
  by_cases hfirst : firstByte c.toNat = firstByte d.toNat
  · obtain ⟨hcount, hlead⟩ := eq_of_firstByte_eq hfirst (Nat.lt_trans hlt hd) hd
    rw [hcount] at hlead ⊢
    exact .inr ⟨hfirst, furtherBytes_append_lt hlt hlead as bs⟩
  · have hle := firstByte_le (Nat.le_of_lt hlt) hd
    exact .inl (by omega)

/-- Texts that are ordered character by character have their bytes in the same order. -/
theorem utf8Bytes_lt {cs ds : List Char} (h : cs < ds) : utf8Bytes cs < utf8Bytes ds := by
  induction cs generalizing ds with
  | nil =>
    cases ds with
    | nil => exact absurd h (List.lt_irrefl _)
    | cons d ds =>
      show [] < String.utf8EncodeChar d ++ utf8Bytes ds
      rw [utf8EncodeChar_eq]
      exact List.nil_lt_cons _ _
  | cons c cs ih =>
    cases ds with
    | nil => exact absurd h (List.not_lt_nil _)
    | cons d ds =>
      show String.utf8EncodeChar c ++ utf8Bytes cs < String.utf8EncodeChar d ++ utf8Bytes ds
      rcases List.cons_lt_cons_iff.mp h with hlt | ⟨rfl, hlt⟩
      · exact utf8EncodeChar_append_lt hlt _ _
      · exact List.append_left_lt (ih hlt)

/-- The order of texts is the order of their bytes. -/
theorem utf8_lt {s t : String} (h : s < t) : utf8 s < utf8 t :=
  utf8Bytes_lt h

end NodeReport.Text

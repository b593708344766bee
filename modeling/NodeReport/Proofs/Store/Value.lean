import Mathlib.Data.List.TakeWhile
import NodeReport.Proofs.Number.Digits
import NodeReport.Proofs.Text.Utf8
import NodeReport.Store.Value

/-! # Order of stored bytes

  Bytes are ordered lexicographically, so that only equal ones compare equal. Equally many digits
  are ordered like the numbers that they write. A collation compares other bytes than those of the
  texts, but makes no difference for texts without letters, spaces and bytes of value zero.
-/

namespace NodeReport

/-- Members of a type are in order if what they are compared by is. -/
theorem transCmp_on {α β : Type} (cmp : β → β → Ordering) [Std.TransCmp cmp] (f : α → β) :
    Std.TransCmp fun a b => cmp (f a) (f b) where
  eq_swap := Std.OrientedCmp.eq_swap
  isLE_trans := Std.TransCmp.isLE_trans

namespace StoredValue

/-! ### Order of bytes -/

@[simp] theorem compareBytes_self (bs : List UInt8) : compareBytes bs bs = .eq := by
  induction bs with
  | nil => rfl
  | cons b bs ih =>
    rw [compareBytes, ih, Nat.compare_eq_eq.mpr rfl]
    rfl

theorem compareBytes_eq_eq_iff {as bs : List UInt8} : compareBytes as bs = .eq ↔ as = bs := by
  constructor
  · intro h
    induction as generalizing bs with
    | nil =>
      cases bs with
      | nil => rfl
      | cons b bs => cases h
    | cons a as ih =>
      cases bs with
      | nil => cases h
      | cons b bs =>
        rw [compareBytes] at h
        obtain ⟨hhead, htail⟩ := Ordering.then_eq_eq.mp h
        rw [UInt8.toNat_inj.mp (Nat.compare_eq_eq.mp hhead), ih htail]
  · rintro rfl
    exact compareBytes_self as

/-- Of two parts the first decides, if it can. -/
theorem compareBytes_append {as bs : List UInt8} (cs ds : List UInt8)
    (h : as.length = bs.length) :
    compareBytes (as ++ cs) (bs ++ ds) = (compareBytes as bs).then (compareBytes cs ds) := by
  induction as generalizing bs with
  | nil =>
    have hnil : bs = [] := List.length_eq_zero_iff.mp h.symm
    rw [hnil]
    rfl
  | cons a as ih =>
    cases bs with
    | nil => simp at h
    | cons b bs =>
      have hlen : as.length = bs.length := by simpa using h
      simp only [List.cons_append, compareBytes]
      rw [ih hlen, Ordering.then_assoc]

/-- The order of bytes is the lexicographic one of their numbers. -/
theorem compareBytes_eq_compareLex (as bs : List UInt8) :
    compareBytes as bs =
      List.compareLex compare (as.map UInt8.toNat) (bs.map UInt8.toNat) := by
  induction as generalizing bs with
  | nil => cases bs <;> rfl
  | cons a as ih =>
    cases bs with
    | nil => rfl
    | cons b bs =>
      rw [compareBytes, ih, List.map_cons, List.map_cons, List.compareLex_cons_cons]

instance : Std.TransCmp compareBytes where
  eq_swap := by
    intro as bs
    rw [compareBytes_eq_compareLex, compareBytes_eq_compareLex]
    exact Std.OrientedCmp.eq_swap
  isLE_trans := by
    intro as bs cs
    simp only [compareBytes_eq_compareLex]
    exact Std.TransCmp.isLE_trans

end StoredValue

/-! ### Order of texts -/

namespace Collation

open StoredValue (compareBytes compareBytes_self compareBytes_eq_eq_iff)

@[simp] theorem compare_binary (as bs : List UInt8) :
    binary.compare as bs = compareBytes as bs := by
  show (compareBytes as bs).then .eq = compareBytes as bs
  rw [Ordering.then_eq]

@[simp] theorem compare_self (c : Collation) (as : List UInt8) : c.compare as as = .eq := by
  unfold compare
  rw [compareBytes_self, Nat.compare_eq_eq.mpr rfl]
  rfl

instance (c : Collation) : Std.TransCmp c.compare :=
  have : Std.TransCmp fun as bs => compareBytes (c.key as).1 (c.key bs).1 :=
    transCmp_on compareBytes fun bytes => (c.key bytes).1
  have : Std.TransCmp fun as bs => Ord.compare (c.key as).2 (c.key bs).2 :=
    transCmp_on Ord.compare fun bytes => (c.key bytes).2
  inferInstanceAs (Std.TransCmp (compareLex (fun as bs => compareBytes (c.key as).1 (c.key bs).1)
    fun as bs => Ord.compare (c.key as).2 (c.key bs).2))

/-- Bytes between the space and the letters, such as those of digits. -/
def IsPlain (bytes : List UInt8) : Prop :=
  ∀ b ∈ bytes, 0x20 < b.toNat ∧ b.toNat < 65

/-- Of plain bytes every collation compares all. -/
theorem IsPlain.fst_key {bytes : List UInt8} (h : IsPlain bytes) (c : Collation) :
    (c.key bytes).1 = bytes := by
  have hne : ∀ b ∈ bytes, ∀ n : UInt8, n.toNat ≤ 0x20 → b ≠ n := by
    rintro b hb n hn rfl
    exact absurd (h b hb).1 (by omega)
  cases c with
  | binary => rfl
  | noCase =>
    have hall : bytes.takeWhile (· != 0) = bytes := by
      rw [List.takeWhile_eq_self_iff]
      intro b hb
      simpa using hne b hb 0 (by decide)
    have hsmall : bytes.map smallLetter = bytes.map id := by
      apply List.map_congr_left
      intro b hb
      have hupper := (h b hb).2
      exact if_neg (by omega)
    show (bytes.takeWhile (· != 0)).map smallLetter = bytes
    rw [hall, hsmall, List.map_id]
  | trimmed =>
    have hlast : bytes.reverse.dropWhile (· == 0x20) = bytes.reverse := by
      cases hreverse : bytes.reverse with
      | nil => rfl
      | cons b rest =>
        have hmem : b ∈ bytes := by
          rw [← List.mem_reverse, hreverse]
          exact List.mem_cons_self
        exact List.dropWhile_cons_of_neg (by simpa using hne b hmem 0x20 (by decide))
    show (bytes.reverse.dropWhile (· == 0x20)).reverse = bytes
    rw [hlast, List.reverse_reverse]

/-- Plain bytes are compared as they are. -/
theorem compare_of_isPlain (c : Collation) {as bs : List UInt8} (ha : IsPlain as)
    (hb : IsPlain bs) : c.compare as bs = compareBytes as bs := by
  unfold compare
  rw [ha.fst_key, hb.fst_key]
  cases horder : compareBytes as bs with
  | eq =>
    -- equal bytes have the same number
    rw [compareBytes_eq_eq_iff.mp horder, Nat.compare_eq_eq.mpr rfl]
    rfl
  | lt => rfl
  | gt => rfl

end Collation

namespace StoredValue

/-! ### Order of digits -/

/-- The leading part decides on numbers in mixed notation. -/
theorem compare_mul_add {k a b r s : Nat} (hr : r < k) (hs : s < k) :
    compare (k * a + r) (k * b + s) = (compare a b).then (compare r s) := by
  rcases Nat.lt_trichotomy a b with h | h | h
  · have hmul : k * (a + 1) ≤ k * b := Nat.mul_le_mul_left k h
    rw [Nat.mul_add, Nat.mul_one] at hmul
    rw [Nat.compare_eq_lt.mpr h, Nat.compare_eq_lt.mpr (by omega)]
    rfl
  · subst h
    rw [Nat.compare_eq_eq.mpr rfl, Ordering.eq_then]
    rcases Nat.lt_trichotomy r s with h | h | h
    · rw [Nat.compare_eq_lt.mpr h, Nat.compare_eq_lt.mpr (by omega)]
    · rw [Nat.compare_eq_eq.mpr h, Nat.compare_eq_eq.mpr (by omega)]
    · rw [Nat.compare_eq_gt.mpr h, Nat.compare_eq_gt.mpr (by omega)]
  · have hmul : k * (b + 1) ≤ k * a := Nat.mul_le_mul_left k h
    rw [Nat.mul_add, Nat.mul_one] at hmul
    rw [Nat.compare_eq_gt.mpr h, Nat.compare_eq_gt.mpr (by omega)]
    rfl

theorem utf8Bytes_append (cs ds : List Char) :
    Text.utf8Bytes (cs ++ ds) = Text.utf8Bytes cs ++ Text.utf8Bytes ds :=
  List.flatMap_append

/-- A character of ASCII is one byte. -/
theorem utf8Bytes_cons_of_lt {c : Char} (h : c.toNat < 128) (cs : List Char) :
    Text.utf8Bytes (c :: cs) = UInt8.ofNat c.toNat :: Text.utf8Bytes cs := by
  have hc : c.val.toNat ≤ 0x7f := by
    have : c.val.toNat = c.toNat := rfl
    omega
  have hencode : String.utf8EncodeChar c = [UInt8.ofNat c.toNat] := by
    unfold String.utf8EncodeChar
    rw [if_pos hc]
    rfl
  show String.utf8EncodeChar c ++ Text.utf8Bytes cs = _
  rw [hencode, List.singleton_append]

theorem length_utf8Bytes_of_lt {cs : List Char} (h : ∀ c ∈ cs, c.toNat < 128) :
    (Text.utf8Bytes cs).length = cs.length := by
  induction cs with
  | nil => rfl
  | cons c cs ih =>
    rw [utf8Bytes_cons_of_lt (h c (by simp)), List.length_cons, List.length_cons,
      ih fun d hd => h d (by simp [hd])]

theorem toNat_lt_of_isDigit {c : Char} (h : c.isDigit = true) : c.toNat < 128 := by
  have := toNat_of_isDigit h
  omega

/-- Equally many digits are ordered, byte by byte, like the numbers that they write. -/
theorem compareBytes_digits {ds es : List Char} (hlen : ds.length = es.length)
    (hds : ∀ c ∈ ds, c.isDigit = true) (hes : ∀ c ∈ es, c.isDigit = true) :
    compareBytes (Text.utf8Bytes ds) (Text.utf8Bytes es) =
      compare (digitsValue ds) (digitsValue es) := by
  induction ds generalizing es with
  | nil =>
    have hnil : es = [] := List.length_eq_zero_iff.mp hlen.symm
    rw [hnil]
    rfl
  | cons d ds ih =>
    cases es with
    | nil => simp at hlen
    | cons e es =>
      have hlen' : ds.length = es.length := by simpa using hlen
      have hds' : ∀ c ∈ ds, c.isDigit = true := fun c hc => hds c (by simp [hc])
      have hes' : ∀ c ∈ es, c.isDigit = true := fun c hc => hes c (by simp [hc])
      have hd := toNat_of_isDigit (hds d (by simp))
      have he := toNat_of_isDigit (hes e (by simp))
      have hlt := digitsValue_lt hds'
      have hlt' := digitsValue_lt hes'
      rw [← hlen'] at hlt'
      rw [utf8Bytes_cons_of_lt (by omega), utf8Bytes_cons_of_lt (by omega), compareBytes,
        Text.toNat_ofNat_of_lt (by omega), Text.toNat_ofNat_of_lt (by omega),
        ih hlen' hds' hes', digitsValue_cons, digitsValue_cons, ← hlen',
        compare_mul_add hlt hlt']
      -- subtracting the code of the digit zero does not change the order of two digits
      congr 1
      rcases Nat.lt_trichotomy d.toNat e.toNat with h | h | h
      · rw [Nat.compare_eq_lt.mpr h, Nat.compare_eq_lt.mpr (by omega)]
      · rw [Nat.compare_eq_eq.mpr h, Nat.compare_eq_eq.mpr (by omega)]
      · rw [Nat.compare_eq_gt.mpr h, Nat.compare_eq_gt.mpr (by omega)]

end StoredValue

end NodeReport

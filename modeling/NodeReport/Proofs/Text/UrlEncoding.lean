import NodeReport.Proofs.Store.Value
import NodeReport.Text.Basic
import NodeReport.Text.UrlEncoding

/-! # Parameters of a query read back

  A reader of a query's parameters: pairs of a name and a value between ampersands, up to the mark of
  a fragment. A value is read by taking plus signs for spaces and percent signs with two
  hexadecimal digits for bytes. What is made of letters, digits and other plain characters stands
  for itself, written and read, and any text that is written as a value is read back.
-/

namespace NodeReport.Text

/-! ### Parts -/

/-- A text without separators is its only part. -/
theorem split_of_not_mem {separator : Char} {cs : List Char} (h : separator ∉ cs) :
    split separator cs = [cs] := by
  induction cs with
  | nil => rfl
  | cons c cs ih =>
    have hne : c ≠ separator := by
      rintro rfl
      exact h (by simp)
    rw [split, if_neg hne, ih fun hmem => h (by simp [hmem])]

/-- The part up to the first separator is cut off. -/
theorem split_append {separator : Char} {cs : List Char} (h : separator ∉ cs) (rest : List Char) :
    split separator (cs ++ separator :: rest) = cs :: split separator rest := by
  induction cs with
  | nil => rw [List.nil_append, split, if_pos rfl]
  | cons c cs ih =>
    have hne : c ≠ separator := by
      rintro rfl
      exact h (by simp)
    rw [List.cons_append, split, if_neg hne, ih fun hmem => h (by simp [hmem])]

/-- What stands in front of the first mark. -/
theorem takeWhile_ne_append {mark : Char} {cs : List Char} (h : mark ∉ cs) (rest : List Char) :
    (cs ++ mark :: rest).takeWhile (· != mark) = cs := by
  rw [List.takeWhile_append_of_pos]
  · simp
  · intro c hc
    rw [bne_iff_ne]
    rintro rfl
    exact h hc

/-- What stands behind the first mark. -/
theorem drop_dropWhile_ne_append {mark : Char} {cs : List Char} (h : mark ∉ cs)
    (rest : List Char) : ((cs ++ mark :: rest).dropWhile (· != mark)).drop 1 = rest := by
  rw [List.dropWhile_append_of_pos]
  · simp
  · intro c hc
    rw [bne_iff_ne]
    rintro rfl
    exact h hc

/-! ### Parameters -/

/-- The names and values in the query of an address, as they are written. -/
def queryParameters (address : List Char) : List (List Char × List Char) :=
  let query := ((address.dropWhile (· != '?')).drop 1).takeWhile (· != '#')
  (split '&' query).map fun p => (p.takeWhile (· != '='), (p.dropWhile (· != '=')).drop 1)

/-- The first value of a name in the query of an address, as it is written. -/
def queryValue? (name : String) (address : List Char) : Option (List Char) :=
  ((queryParameters address).find? fun p => p.1 == name.toList).map fun p => p.2

/-- A parameter as it stands in a query. -/
def parameterChars (p : List Char × List Char) : List Char :=
  p.1 ++ '=' :: p.2

/-- Whether a parameter has no character that separates parts of an address. -/
def IsPlainParameter (p : List Char × List Char) : Prop :=
  '=' ∉ p.1 ∧ ∀ c ∈ parameterChars p, c ≠ '&' ∧ c ≠ '#'

theorem split_parameters {p : List Char × List Char} {rest : List (List Char × List Char)}
    (h : ∀ q ∈ p :: rest, IsPlainParameter q) :
    split '&' (parameterChars p ++ rest.flatMap fun q => '&' :: parameterChars q) =
      (p :: rest).map parameterChars := by
  have hplain : ∀ q ∈ p :: rest, '&' ∉ parameterChars q :=
    fun q hq hmem => ((h q hq).2 _ hmem).1 rfl
  induction rest generalizing p with
  | nil => simpa using split_of_not_mem (hplain p (by simp))
  | cons q rest ih =>
    rw [List.flatMap_cons, List.cons_append, split_append (hplain p (by simp)),
      ih (fun r hr => h r (by simp [List.mem_cons.mp hr])) fun r hr =>
        hplain r (by simp [List.mem_cons.mp hr])]
    rfl

/-- Parameters without separators are read back from an address. -/
theorem queryParameters_append {page : List Char} (hpage : '?' ∉ page)
    {p : List Char × List Char} {rest : List (List Char × List Char)}
    (h : ∀ q ∈ p :: rest, IsPlainParameter q) :
    queryParameters (page ++ '?' :: (parameterChars p ++
      rest.flatMap fun q => '&' :: parameterChars q)) = p :: rest := by
  have hquery : (parameterChars p ++ rest.flatMap fun q => '&' :: parameterChars q).takeWhile
      (· != '#') = parameterChars p ++ rest.flatMap fun q => '&' :: parameterChars q := by
    rw [← List.append_nil (parameterChars p ++ _), List.takeWhile_append_of_pos,
      List.takeWhile_nil]
    intro c hc
    rw [bne_iff_ne]
    rcases List.mem_append.mp hc with hc | hc
    · exact ((h p (by simp)).2 c hc).2
    · obtain ⟨q, hq, hc⟩ := List.mem_flatMap.mp hc
      rcases List.mem_cons.mp hc with rfl | hc
      · decide
      · exact ((h q (by simp [hq])).2 c hc).2
  unfold queryParameters
  simp only [drop_dropWhile_ne_append hpage, hquery, split_parameters h, List.map_map]
  refine (List.map_congr_left ?_).trans (List.map_id _)
  intro q hq
  show ((q.1 ++ '=' :: q.2).takeWhile (· != '='),
    ((q.1 ++ '=' :: q.2).dropWhile (· != '=')).drop 1) = q
  rw [takeWhile_ne_append (h q hq).1, drop_dropWhile_ne_append (h q hq).1]

/-! ### Values -/

/-- The bytes that a value in a query stands for; a percent sign without two digits stands for
    itself. -/
def formBytes : List Char → List UInt8
  | '%' :: a :: b :: rest =>
    match hexByte? a b with
    | some n => UInt8.ofNat n :: formBytes rest
    | none => utf8Bytes ['%'] ++ formBytes (a :: b :: rest)
  | c :: rest => utf8Bytes [if c = '+' then ' ' else c] ++ formBytes rest
  | [] => []

/-- The text that a value in a query stands for. -/
def formText (cs : List Char) : String :=
  String.ofList (decode (formBytes cs))

theorem formBytes_cons {c : Char} (h : c ≠ '%') (rest : List Char) :
    formBytes (c :: rest) = utf8Bytes [if c = '+' then ' ' else c] ++ formBytes rest := by
  rw [formBytes]
  intro _ _ _ hc
  exact absurd hc h

/-- Without percent signs a value is read character by character. -/
theorem formText_of_not_mem {cs : List Char} (h : '%' ∉ cs) :
    formText cs = String.ofList (cs.map fun c => if c = '+' then ' ' else c) := by
  have hbytes : formBytes cs = utf8Bytes (cs.map fun c => if c = '+' then ' ' else c) := by
    induction cs with
    | nil => rfl
    | cons c cs ih =>
      have hne : c ≠ '%' := by
        rintro rfl
        exact h (by simp)
      rw [formBytes_cons hne, ih fun hmem => h (by simp [hmem]), List.map_cons,
        ← StoredValue.utf8Bytes_append]
      rfl
  unfold formText
  rw [hbytes, decode_utf8Bytes]

theorem map_plus_of_plain {cs : List Char} (h : ∀ c ∈ cs, c ≠ '%' ∧ c ≠ '+') :
    (cs.map fun c => if c = '+' then ' ' else c) = cs :=
  (List.map_congr_left fun c hc => if_neg (h c hc).2).trans (List.map_id _)

/-- A value of plain characters stands for itself. -/
theorem formText_of_plain {cs : List Char} (h : ∀ c ∈ cs, c ≠ '%' ∧ c ≠ '+') :
    formText cs = String.ofList cs := by
  rw [formText_of_not_mem fun hmem => (h _ hmem).1 rfl, map_plus_of_plain h]

/-- A plus sign in front stands for a space. -/
theorem formText_plus_cons {cs : List Char} (h : ∀ c ∈ cs, c ≠ '%' ∧ c ≠ '+') :
    formText ('+' :: cs) = String.ofList (' ' :: cs) := by
  have hnot : '%' ∉ '+' :: cs := by
    intro hmem
    rcases List.mem_cons.mp hmem with heq | hmem
    · exact absurd heq (by decide)
    · exact (h _ hmem).1 rfl
  rw [formText_of_not_mem hnot, List.map_cons, map_plus_of_plain h, if_pos rfl]

/-! ### Letters and digits -/

theorem toNat_lt_of_isAlphanum {c : Char} (h : c.isAlphanum = true) : c.toNat < 128 := by
  -- the letters of either case and the digits each end below the bound
  rcases Bool.or_eq_true_iff.mp h with halpha | hdigit
  · rcases Bool.or_eq_true_iff.mp halpha with hupper | hlower
    · have hle : c.val ≤ 'Z'.val := (of_decide_eq_true hupper).2
      exact Nat.lt_of_le_of_lt (UInt32.le_iff_toNat_le.mp hle) (by decide)
    · have hle : c.val ≤ 'z'.val := of_decide_eq_true (Bool.and_eq_true_iff.mp hlower).2
      exact Nat.lt_of_le_of_lt (UInt32.le_iff_toNat_le.mp hle) (by decide)
  · exact Nat.lt_of_le_of_lt (toNat_of_isDigit hdigit).2 (by decide)

/-- A letter or a digit is one byte of a query. -/
theorem encodeQueryByte_of_isAlphanum {c : Char} (h : c.isAlphanum = true) :
    encodeQueryByte (UInt8.ofNat c.toNat) = [c] := by
  have hlt := toNat_lt_of_isAlphanum h
  have hback : Char.ofNat (UInt8.ofNat c.toNat).toNat = c := by
    rw [toNat_ofNat_of_lt (by omega), Char.ofNat_toNat]
  have hquery : isQueryByte (UInt8.ofNat c.toNat) = true := by
    unfold isQueryByte
    simp only [hback, h, Bool.true_or]
  unfold encodeQueryByte
  rw [if_pos hquery, hback]

/-- Letters and digits are written as they are. -/
theorem formEncode_of_isAlphanum {s : String} (h : ∀ c ∈ s.toList, c.isAlphanum = true) :
    formEncode s = s := by
  have hbytes : ∀ cs : List Char, (∀ c ∈ cs, c.isAlphanum = true) →
      (utf8Bytes cs).flatMap encodeQueryByte = cs := by
    intro cs hcs
    induction cs with
    | nil => rfl
    | cons c cs ih =>
      have hc := hcs c (by simp)
      rw [StoredValue.utf8Bytes_cons_of_lt (toNat_lt_of_isAlphanum hc), List.flatMap_cons,
        encodeQueryByte_of_isAlphanum hc, ih fun d hd => hcs d (by simp [hd])]
      rfl
  unfold formEncode utf8
  rw [hbytes s.toList h, String.ofList_toList]

/-! ### Any text -/

/-- The characters that a value in a query is written with. -/
def IsQueryChar (c : Char) : Prop :=
  c.isAlphanum = true ∨ c ∈ ['*', '-', '.', '_', '+', '%']

theorem toNat_charOfNat_of_lt {n : Nat} (h : n < 256) : (Char.ofNat n).toNat = n := by
  unfold Char.ofNat
  rw [dif_pos (.inl (by omega))]
  rfl

/-- A byte that stands for itself is one of these characters, and it is read as itself. -/
theorem isQueryByte_spec {b : UInt8} (h : isQueryByte b = true) :
    b.toNat < 128 ∧ IsQueryChar (Char.ofNat b.toNat) ∧ Char.ofNat b.toNat ≠ '%' ∧
      Char.ofNat b.toNat ≠ '+' := by
  have hback : (Char.ofNat b.toNat).toNat = b.toNat := toNat_charOfNat_of_lt b.toNat_lt
  unfold isQueryByte at h
  simp only [Bool.or_eq_true, beq_iff_eq] at h
  rcases h with (((h | h) | h) | h) | h
  · refine ⟨?_, .inl h, ?_, ?_⟩
    · rw [← hback]
      exact toNat_lt_of_isAlphanum h
    · intro heq
      rw [heq] at h
      exact absurd h (by decide)
    · intro heq
      rw [heq] at h
      exact absurd h (by decide)
  all_goals
    rw [h] at hback ⊢
    exact ⟨by rw [← hback]; decide, .inr (by decide), by decide, by decide⟩

/-- A hexadecimal digit is read as the number that it is written for. -/
theorem upperHexDigit_spec {n : Nat} (h : n < 16) :
    (upperHexDigit n).isAlphanum = true ∧ hexValue? (upperHexDigit n) = some n := by
  have hall : ∀ m : Fin 16, (upperHexDigit m).isAlphanum = true ∧
      hexValue? (upperHexDigit m) = some m.val := by decide
  exact hall ⟨n, h⟩

/-- A byte in front of a value is read back. -/
theorem formBytes_encodeQueryByte (b : UInt8) (rest : List Char) :
    formBytes (encodeQueryByte b ++ rest) = b :: formBytes rest := by
  have hlt := b.toNat_lt
  unfold encodeQueryByte
  by_cases hplain : isQueryByte b = true
  · obtain ⟨hascii, -, hpercent, hplus⟩ := isQueryByte_spec hplain
    have hback : (Char.ofNat b.toNat).toNat = b.toNat := toNat_charOfNat_of_lt hlt
    rw [if_pos hplain, List.cons_append, formBytes_cons hpercent, if_neg hplus,
      StoredValue.utf8Bytes_cons_of_lt (by omega), hback, UInt8.ofNat_toNat]
    rfl
  rw [if_neg hplain]
  by_cases hspace : b = 0x20
  · rw [if_pos hspace, hspace, List.cons_append, formBytes_cons (by decide), if_pos rfl]
    rfl
  · have hhigh := (upperHexDigit_spec (n := b.toNat / 16) (by omega)).2
    have hlow := (upperHexDigit_spec (n := b.toNat % 16) (by omega)).2
    have hbyte : hexByte? (upperHexDigit (b.toNat / 16)) (upperHexDigit (b.toNat % 16)) =
        some b.toNat := by
      unfold hexByte?
      rw [hhigh, hlow]
      exact congrArg some (by omega)
    rw [if_neg hspace]
    simp only [List.cons_append, List.nil_append]
    rw [formBytes, hbyte]
    show UInt8.ofNat b.toNat :: formBytes rest = _
    rw [UInt8.ofNat_toNat]

/-- A text that was written as a value is read as its bytes. -/
theorem formBytes_formEncode (s : String) : formBytes (formEncode s).toList = utf8 s := by
  have hbytes : ∀ bs : List UInt8, formBytes (bs.flatMap encodeQueryByte) = bs := by
    intro bs
    induction bs with
    | nil => rfl
    | cons b bs ih => rw [List.flatMap_cons, formBytes_encodeQueryByte, ih]
  unfold formEncode
  rw [String.toList_ofList, hbytes]

/-- No two texts are written alike. -/
theorem formEncode_inj {s t : String} : formEncode s = formEncode t ↔ s = t := by
  constructor
  · intro h
    rw [← utf8_inj, ← formBytes_formEncode, h, formBytes_formEncode]
  · rintro rfl
    rfl

theorem isQueryChar_of_mem_formEncode {s : String} {c : Char} (h : c ∈ (formEncode s).toList) :
    IsQueryChar c := by
  unfold formEncode at h
  rw [String.toList_ofList] at h
  obtain ⟨b, -, hc⟩ := List.mem_flatMap.mp h
  have hlt := b.toNat_lt
  unfold encodeQueryByte at hc
  by_cases hplain : isQueryByte b = true
  · rw [if_pos hplain, List.mem_singleton] at hc
    rw [hc]
    exact (isQueryByte_spec hplain).2.1
  rw [if_neg hplain] at hc
  by_cases hspace : b = 0x20
  · rw [if_pos hspace, List.mem_singleton] at hc
    rw [hc]
    exact .inr (by decide)
  · rw [if_neg hspace] at hc
    rcases List.mem_cons.mp hc with rfl | hc
    · exact .inr (by decide)
    · rcases List.mem_cons.mp hc with rfl | hc
      · exact .inl (upperHexDigit_spec (by omega)).1
      · rw [List.mem_singleton.mp hc]
        exact .inl (upperHexDigit_spec (by omega)).1

end NodeReport.Text

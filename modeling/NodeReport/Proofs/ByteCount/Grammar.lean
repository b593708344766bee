import NodeReport.Proofs.ByteCount

/-! # The texts of byte counts

  Which texts are read as byte counts, as which count, and which error the others give. How a text
  ends decides first: with a unit, with the end of an unknown unit, or with neither. Then a number
  is asked for.

  * `ReadsBytes`: the grammar;
  * `parseBytes_eq_iff`: the reader and the grammar.
-/

namespace NodeReport

/-! ### How a text ends -/

theorem ByteUnit.name_eq_of_ofName? {name : List Char} {u : ByteUnit} (h : ofName? name = some u) :
    u.name.toList = name := by
  unfold ofName? at h
  simpa using List.find?_some h

/-- A text that ends like a unit but in none that is known is refused for its unit, however short
    it is. -/
theorem parseBytes_of_unknown {text : String}
    (hends : ∃ front, Text.trim text.toList = front ++ "iB".toList)
    (hunit : ∀ front (u : ByteUnit), Text.trim text.toList ≠ front ++ u.name.toList) :
    parseBytes text = .error (.unknownUnit text) := by
  unfold parseBytes
  generalize Text.trim text.toList = trimmed at hends hunit
  -- however the last characters are cut off, they and what is in front of them are the text
  have hnone : ByteUnit.ofName? (trimmed.drop (trimmed.length - 3)) = none := by
    rw [Option.eq_none_iff_forall_ne_some]
    intro u hname
    apply hunit (trimmed.take (trimmed.length - 3)) u
    rw [ByteUnit.name_eq_of_ofName? hname, List.take_append_drop]
  simp only [Text.endsWith_iff.mpr hends, if_true, hnone]

theorem parseBytes_of_plain {text : String}
    (hends : ∀ front, Text.trim text.toList ≠ front ++ "iB".toList) :
    parseBytes text =
      (readPlainCount? (Text.trim text.toList)).elim (.error (.invalidNumber text)) .ok := by
  have hends' : ¬Text.endsWith "iB".toList (Text.trim text.toList) = true := by
    rw [Text.endsWith_iff]
    rintro ⟨front, hfront⟩
    exact hends front hfront
  unfold parseBytes
  simp only
  rw [if_neg hends']
  cases readPlainCount? (Text.trim text.toList) with
  | some n => rfl
  | none => rfl

/-! ### The grammar -/

/-- How a text is read, blanks around it apart: with a unit at its end, with the end of an unknown
    one, or with neither; numbers and their rounding are those of the format. -/
inductive ReadsBytes (text : String) : Except ByteCountError Nat → Prop
  | scaled {front : List Char} {u : ByteUnit} {x : ℚ}
      (hunit : Text.trim text.toList = front ++ u.name.toList)
      (hnumber : ReadsAs (Text.trim front) x) (hx : 0 ≤ x) :
      ReadsBytes text (.ok (roundedCount (x * u.size)))
  | scaledInvalid {front : List Char} {u : ByteUnit}
      (hunit : Text.trim text.toList = front ++ u.name.toList)
      (hnumber : ∀ x, ReadsAs (Text.trim front) x → x < 0) :
      ReadsBytes text (.error (.invalidNumber text))
  | unknown (hends : ∃ front, Text.trim text.toList = front ++ "iB".toList)
      (hunit : ∀ front (u : ByteUnit), Text.trim text.toList ≠ front ++ u.name.toList) :
      ReadsBytes text (.error (.unknownUnit text))
  | natural {n : Nat} (hends : ∀ front, Text.trim text.toList ≠ front ++ "iB".toList)
      (hnat : WritesNat (Text.trim text.toList) n) (hn : n ≤ maxNat64) :
      ReadsBytes text (.ok n)
  | plain {x : ℚ} (hends : ∀ front, Text.trim text.toList ≠ front ++ "iB".toList)
      (hnat : ∀ n, WritesNat (Text.trim text.toList) n → maxNat64 < n)
      (hnumber : ReadsAs (Text.trim text.toList) x) (hx : 0 ≤ x) :
      ReadsBytes text (.ok (roundedCount x))
  | plainInvalid (hends : ∀ front, Text.trim text.toList ≠ front ++ "iB".toList)
      (hnat : ∀ n, WritesNat (Text.trim text.toList) n → maxNat64 < n)
      (hnumber : ∀ x, ReadsAs (Text.trim text.toList) x → x < 0) :
      ReadsBytes text (.error (.invalidNumber text))

/-- The reader gives what the grammar says. -/
theorem parseBytes_of_readsBytes {text : String} {r : Except ByteCountError Nat}
    (h : ReadsBytes text r) : parseBytes text = r := by
  cases h with
  | scaled hunit hnumber hx =>
    rw [parseBytes_of_unit hunit, readScaledCount?_of_readsAs _ hnumber hx, Option.elim_some]
  | scaledInvalid hunit hnumber =>
    rw [parseBytes_of_unit hunit, readScaledCount?_eq_none _ hnumber, Option.elim_none]
  | unknown hends hunit => exact parseBytes_of_unknown hends hunit
  | natural hends hnat hn =>
    rw [parseBytes_of_plain hends, readPlainCount?_of_writesNat hnat hn, Option.elim_some]
  | plain hends hnat hnumber hx =>
    rw [parseBytes_of_plain hends, readPlainCount?_of_readsAs hnat hnumber hx, Option.elim_some]
  | plainInvalid hends hnat hnumber =>
    rw [parseBytes_of_plain hends, readPlainCount?_eq_none hnat hnumber, Option.elim_none]

/-- The grammar says something about every text. -/
theorem exists_readsBytes (text : String) : ∃ r, ReadsBytes text r := by
  -- the end of the text decides first, then whether a number is written
  by_cases hunit : ∃ front, ∃ u : ByteUnit, Text.trim text.toList = front ++ u.name.toList
  · obtain ⟨front, u, hunit⟩ := hunit
    by_cases hnumber : ∃ x, ReadsAs (Text.trim front) x ∧ 0 ≤ x
    · obtain ⟨x, hnumber, hx⟩ := hnumber
      exact ⟨_, .scaled hunit hnumber hx⟩
    · exact ⟨_, .scaledInvalid hunit fun x hx => not_le.mp fun hle => hnumber ⟨x, hx, hle⟩⟩
  by_cases hends : ∃ front, Text.trim text.toList = front ++ "iB".toList
  · exact ⟨_, .unknown hends fun front u hfront => hunit ⟨front, u, hfront⟩⟩
  have hends' : ∀ front, Text.trim text.toList ≠ front ++ "iB".toList :=
    fun front hfront => hends ⟨front, hfront⟩
  by_cases hnat : ∃ n, WritesNat (Text.trim text.toList) n ∧ n ≤ maxNat64
  · obtain ⟨n, hnat, hn⟩ := hnat
    exact ⟨_, .natural hends' hnat hn⟩
  have hnat' : ∀ n, WritesNat (Text.trim text.toList) n → maxNat64 < n :=
    fun n hn => Nat.lt_of_not_le fun hle => hnat ⟨n, hn, hle⟩
  by_cases hnumber : ∃ x, ReadsAs (Text.trim text.toList) x ∧ 0 ≤ x
  · obtain ⟨x, hnumber, hx⟩ := hnumber
    exact ⟨_, .plain hends' hnat' hnumber hx⟩
  · exact ⟨_, .plainInvalid hends' hnat' fun x hx => not_le.mp fun hle => hnumber ⟨x, hx, hle⟩⟩

/-- The reader of byte counts takes exactly the texts of the grammar, with its count or its error. -/
theorem parseBytes_eq_iff {text : String} {r : Except ByteCountError Nat} :
    parseBytes text = r ↔ ReadsBytes text r := by
  constructor
  · rintro rfl
    -- what the grammar says is what the reader gives, so the reader's result is in it
    obtain ⟨r, hreads⟩ := exists_readsBytes text
    rwa [parseBytes_of_readsBytes hreads]
  · exact parseBytes_of_readsBytes

/-- What stands before the end of a unit need not be a letter, and no minus sign makes zero less
    than it is. -/
example : parseBytes "éiB" = .error (.unknownUnit "éiB") ∧ parseBytes "-0 kiB" = .ok 0 := by
  decide

end NodeReport

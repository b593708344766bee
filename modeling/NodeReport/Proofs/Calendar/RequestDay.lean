import NodeReport.Proofs.Calendar.DayText
import NodeReport.Proofs.Number.Literal

/-! # The texts of request parameters

  The lenient reader takes exactly the texts in which three runs of digits with hyphens between them
  stand behind anything but digits and hyphens, and name a day. What both readers take they take for
  the same day: a year with a minus sign and a blank in front of a number are for the strict reader
  only, and a plus sign and blanks around the text are skipped by both.

  * `NamesDay`, `StrictParts`: the texts of the lenient reader, and the parts of those of the strict
    one;
  * `readLenient?_eq_some_iff`: the lenient reader and its texts;
  * `eq_of_strictParts`: both readers on one text.
-/

namespace NodeReport

namespace Day

/-! ### Runs of digits -/

/-- Digits, at least one. -/
def IsRun (ds : List Char) : Prop :=
  (∀ c ∈ ds, c.isDigit = true) ∧ ds ≠ []

theorem exists_run_of_scanDigits? {limit n : Nat} {cs rest : List Char}
    (h : scanDigits? limit cs = some (n, rest)) :
    ∃ ds, IsRun ds ∧ cs = ds ++ rest ∧ digitsValue ds = n := by
  unfold scanDigits? at h
  simp only at h
  split at h
  · cases h
  · rename_i hne
    cases h
    have hprefix : (cs.take limit).takeWhile Char.isDigit <+: cs :=
      (List.takeWhile_prefix _).trans (List.take_prefix _ _)
    exact ⟨_, ⟨fun _ hc => List.mem_takeWhile_imp hc, by simpa using hne⟩,
      (List.prefix_iff_eq_append.mp hprefix).symm, rfl⟩

/-- A run that is scanned without a limit is as long as can be. -/
theorem scanRun?_eq_some_iff {n : Nat} {cs rest : List Char} :
    scanRun? cs = some (n, rest) ↔
      ∃ ds, IsRun ds ∧ cs = ds ++ rest ∧ digitsValue ds = n ∧
        ∀ c, rest.head? = some c → c.isDigit = false := by
  constructor
  · intro h
    have hrest : cs.drop (cs.takeWhile Char.isDigit).length = cs.dropWhile Char.isDigit := by
      have hdrop : (cs.takeWhile Char.isDigit ++ cs.dropWhile Char.isDigit).drop
          (cs.takeWhile Char.isDigit).length = cs.dropWhile Char.isDigit := List.drop_left
      rwa [List.takeWhile_append_dropWhile] at hdrop
    obtain ⟨ds, hds, hcs, hn⟩ := exists_run_of_scanDigits? h
    refine ⟨ds, hds, hcs, hn, ?_⟩
    -- the limit is the length of the text, so that all digits in front are taken
    unfold scanRun? scanDigits? at h
    rw [List.take_length] at h
    simp only [hrest] at h
    split at h
    · cases h
    · cases h
      exact isDigit_head?_dropWhile cs
  · rintro ⟨ds, hds, rfl, rfl, hrest⟩
    exact scanRun?_append hds.1 hds.2 hrest

theorem scanHyphen?_eq_some_iff {cs rest : List Char} :
    scanHyphen? cs = some rest ↔ cs = '-' :: rest := by
  constructor
  · intro h
    unfold scanHyphen? at h
    split at h
    · cases h
      rfl
    · cases h
  · rintro rfl
    rfl

/-- No run starts with a blank. -/
theorem eq_nil_of_scanRun? {blanks cs : List Char} {r : Nat × List Char}
    (hblanks : ∀ c ∈ blanks, Text.isBlank c = true) (h : scanRun? (blanks ++ cs) = some r) :
    blanks = [] := by
  obtain ⟨ds, hds, hcs, -, -⟩ := scanRun?_eq_some_iff.mp (show _ = some (r.1, r.2) from h)
  cases blanks with
  | nil => rfl
  | cons b blanks =>
    -- the first blank would be the first digit
    obtain ⟨d, ds', rfl⟩ := List.exists_cons_of_ne_nil hds.2
    obtain ⟨rfl, -⟩ := List.cons.inj hcs
    have hdigit := Text.isBlank_of_isDigit (hds.1 b (by simp))
    rw [hblanks b (by simp)] at hdigit
    cases hdigit

/-! ### The lenient reader -/

/-- A text that names a day: its year, its month and its day of the month in digits, with hyphens
    between them, behind anything but digits and hyphens, with no further digit behind them. Each
    number fits into 32 bits, the year with a sign. -/
inductive NamesDay (cs : List Char) (d : Day) : Prop
  | intro {front ys ms ds rest : List Char}
      (htext : cs = front ++ (ys ++ '-' :: (ms ++ '-' :: (ds ++ rest))))
      (hfront : ∀ c ∈ front, c.isDigit = false ∧ c ≠ '-')
      (hys : IsRun ys) (hms : IsRun ms) (hds : IsRun ds)
      (hrest : ∀ c, rest.head? = some c → c.isDigit = false)
      (hyear : digitsValue ys < 2 ^ 31 ∧ d.year = digitsValue ys)
      (hmonth : digitsValue ms < 2 ^ 32 ∧ d.month = digitsValue ms)
      (hday : digitsValue ds < 2 ^ 32 ∧ d.day = digitsValue ds)

/-- The lenient reader takes exactly the texts that name a day. -/
theorem readLenient?_eq_some_iff {cs : List Char} {d : Day} :
    readLenient? cs = some d ↔ NamesDay cs d := by
  constructor
  · intro h
    obtain ⟨⟨year, rest₁⟩, hyear, h⟩ := Option.bind_eq_some_iff.mp h
    obtain ⟨rest₂, hhyphen, h⟩ := Option.bind_eq_some_iff.mp h
    obtain ⟨⟨month, rest₃⟩, hmonth, h⟩ := Option.bind_eq_some_iff.mp h
    obtain ⟨rest₄, hhyphen', h⟩ := Option.bind_eq_some_iff.mp h
    obtain ⟨⟨day, rest⟩, hday, h⟩ := Option.bind_eq_some_iff.mp h
    obtain ⟨ys, hys, hstart, rfl, -⟩ := scanRun?_eq_some_iff.mp hyear
    obtain rfl := scanHyphen?_eq_some_iff.mp hhyphen
    obtain ⟨ms, hms, rfl, rfl, -⟩ := scanRun?_eq_some_iff.mp hmonth
    obtain rfl := scanHyphen?_eq_some_iff.mp hhyphen'
    obtain ⟨ds, hds, rfl, rfl, hrest⟩ := scanRun?_eq_some_iff.mp hday
    obtain ⟨hy, hm, hk⟩ := ofFields?_eq_some_iff.mp h
    -- a day of the calendar fits by far
    have hlast : d.year ≤ lastYear := d.valid.2.1
    have hmonths := d.month_lt_hundred
    have hdays := d.day_lt_hundred
    unfold lastYear at hlast
    have htext := List.takeWhile_append_dropWhile (p := fun c => !(c.isDigit || c == '-')) (l := cs)
    rw [hstart] at htext
    refine .intro htext.symm ?_ hys hms hds hrest ⟨by omega, hy⟩ ⟨by omega, hm⟩ ⟨by omega, hk⟩
    intro c hc
    simpa using List.mem_takeWhile_imp hc
  · rintro ⟨rfl, hfront, hys, hms, hds, hrest, ⟨-, hyear⟩, ⟨-, hmonth⟩, ⟨-, hday⟩⟩
    rw [readLenient?_append hfront hys hms hds hrest]
    exact ofFields?_eq_some_iff.mpr ⟨hyear, hmonth, hday⟩

theorem not_digit_of_isBlank {c : Char} (h : Text.isBlank c = true) :
    c.isDigit = false ∧ c ≠ '-' := by
  constructor
  · rw [Bool.eq_false_iff]
    intro hdigit
    rw [Text.isBlank_of_isDigit hdigit] at h
    cases h
  · rintro rfl
    exact absurd h (by decide)

/-! ### The strict reader -/

/-- The parts of a text that the strict reader takes: a sign and blanks may stand in front of the
    numbers. How long the numbers may be is left out. -/
inductive StrictParts (cs : List Char) (d : Day) : Prop
  | intro {blanks sign ys blanks' ms blanks'' ds : List Char} {negative : Bool}
      (htext : cs = blanks ++
        (sign ++ (ys ++ '-' :: (blanks' ++ (ms ++ '-' :: (blanks'' ++ ds))))))
      (hblanks : ∀ c ∈ blanks, Text.isBlank c = true)
      (hblanks' : ∀ c ∈ blanks', Text.isBlank c = true)
      (hblanks'' : ∀ c ∈ blanks'', Text.isBlank c = true)
      (hsign : IsSign sign negative) (hys : IsRun ys) (hms : IsRun ms) (hds : IsRun ds)
      (hyear : d.year = Binary64.signed negative (digitsValue ys))
      (hmonth : d.month = digitsValue ms) (hday : d.day = digitsValue ds)

/-- A scanned number and what is made of it. -/
theorem exists_run_of_map {limit : Nat} {year : Int} {cs rest : List Char} {f : Nat → Int}
    (h : ((scanDigits? limit cs).map fun (n, rest) => (f n, rest)) = some (year, rest)) :
    ∃ ys, IsRun ys ∧ cs = ys ++ rest ∧ year = f (digitsValue ys) := by
  obtain ⟨⟨n, rest'⟩, hscan, heq⟩ := Option.map_eq_some_iff.mp h
  cases heq
  obtain ⟨ys, hys, rfl, rfl⟩ := exists_run_of_scanDigits? hscan
  exact ⟨ys, hys, rfl, rfl⟩

theorem exists_run_of_scanYear? {year : Int} {cs rest : List Char}
    (h : scanYear? cs = some (year, rest)) :
    ∃ sign negative ys, IsSign sign negative ∧ IsRun ys ∧ cs = sign ++ (ys ++ rest) ∧
      year = Binary64.signed negative (digitsValue ys) := by
  unfold scanYear? at h
  split at h
  · obtain ⟨ys, hys, rfl, hyear⟩ := exists_run_of_map (f := fun n => -(n : Int)) h
    exact ⟨['-'], true, ys, .minus, hys, rfl, hyear⟩
  · obtain ⟨ys, hys, rfl, hyear⟩ := exists_run_of_map (f := fun n => (n : Int)) h
    exact ⟨['+'], false, ys, .plus, hys, rfl, hyear⟩
  · obtain ⟨ys, hys, rfl, hyear⟩ := exists_run_of_map (f := fun n => (n : Int)) h
    exact ⟨[], false, ys, .none, hys, rfl, hyear⟩

/-- A number behind blanks. -/
theorem exists_run_of_trimStart {limit n : Nat} {cs rest : List Char}
    (h : scanDigits? limit (Text.trimStart cs) = some (n, rest)) :
    ∃ blanks ds, (∀ c ∈ blanks, Text.isBlank c = true) ∧ IsRun ds ∧
      cs = blanks ++ (ds ++ rest) ∧ digitsValue ds = n := by
  obtain ⟨ds, hds, hcs, hn⟩ := exists_run_of_scanDigits? h
  refine ⟨cs.takeWhile Text.isBlank, ds, fun _ hc => List.mem_takeWhile_imp hc, hds, ?_, hn⟩
  rw [← hcs, Text.trimStart, List.takeWhile_append_dropWhile]

theorem strictParts_of_readStrict? {cs : List Char} {d : Day} (h : readStrict? cs = some d) :
    StrictParts cs d := by
  obtain ⟨⟨year, rest₁⟩, hyear, h⟩ := Option.bind_eq_some_iff.mp h
  obtain ⟨rest₂, hhyphen, h⟩ := Option.bind_eq_some_iff.mp h
  obtain ⟨⟨month, rest₃⟩, hmonth, h⟩ := Option.bind_eq_some_iff.mp h
  obtain ⟨rest₄, hhyphen', h⟩ := Option.bind_eq_some_iff.mp h
  obtain ⟨⟨day, rest⟩, hday, h⟩ := Option.bind_eq_some_iff.mp h
  simp only at hyear hhyphen hmonth hhyphen' hday h
  split at h
  · rename_i hrest
    obtain rfl := List.isEmpty_iff.mp hrest
    obtain ⟨sign, negative, ys, hsign, hys, hstart, rfl⟩ := exists_run_of_scanYear? hyear
    obtain rfl := scanHyphen?_eq_some_iff.mp hhyphen
    obtain ⟨blanks', ms, hblanks', hms, rfl, rfl⟩ := exists_run_of_trimStart hmonth
    obtain rfl := scanHyphen?_eq_some_iff.mp hhyphen'
    obtain ⟨blanks'', ds, hblanks'', hds, rfl, rfl⟩ := exists_run_of_trimStart hday
    obtain ⟨hy, hm, hk⟩ := ofFields?_eq_some_iff.mp h
    have htext := List.takeWhile_append_dropWhile (p := Text.isBlank) (l := cs)
    rw [← Text.trimStart, hstart, List.append_nil] at htext
    exact .intro htext.symm (fun _ hc => List.mem_takeWhile_imp hc) hblanks' hblanks'' hsign hys hms
      hds hy hm hk
  · cases h

/-! ### Both readers -/

/-- The lenient reader takes no blank in front of a number, so that there are none. -/
theorem fields_of_readLenient? {ys blanks' ms blanks'' ds rest : List Char} {d : Day}
    (hblanks' : ∀ c ∈ blanks', Text.isBlank c = true)
    (hblanks'' : ∀ c ∈ blanks'', Text.isBlank c = true)
    (hys : IsRun ys) (hms : IsRun ms) (hds : IsRun ds)
    (hrest : ∀ c, rest.head? = some c → c.isDigit = false)
    (h : readLenient? (ys ++ '-' :: (blanks' ++ (ms ++ '-' :: (blanks'' ++ (ds ++ rest))))) =
      some d) :
    d.year = digitsValue ys ∧ d.month = digitsValue ms ∧ d.day = digitsValue ds := by
  unfold readLenient? at h
  simp only [dropWhile_start hys] at h
  rw [scanRun?_append hys.1 hys.2 (head?_hyphen_cons _)] at h
  simp only [Option.bind_eq_bind, Option.bind_some, scanHyphen?] at h
  -- behind each hyphen digits follow at once, or there would be no result
  obtain ⟨⟨month, rest₃⟩, hmonth, h⟩ := Option.bind_eq_some_iff.mp h
  obtain rfl := eq_nil_of_scanRun? hblanks' hmonth
  rw [List.nil_append, scanRun?_append hms.1 hms.2 (head?_hyphen_cons _)] at hmonth
  cases hmonth
  simp only [Option.bind_some] at h
  obtain ⟨⟨day, rest₅⟩, hday, h⟩ := Option.bind_eq_some_iff.mp h
  obtain rfl := eq_nil_of_scanRun? hblanks'' hday
  rw [List.nil_append, scanRun?_append hds.1 hds.2 hrest] at hday
  cases hday
  exact ofFields?_eq_some_iff.mp h

/-- A minus sign is taken for a hyphen, in front of which no year stands. -/
theorem readLenient?_hyphen (cs : List Char) : readLenient? ('-' :: cs) = none := rfl

theorem readLenient?_plus (cs : List Char) : readLenient? ('+' :: cs) = readLenient? cs := rfl

/-- What both readers take, blanks around it apart, they take for the same day. -/
theorem eq_of_strictParts {before after cs : List Char} {d e : Day}
    (hbefore : ∀ c ∈ before, Text.isBlank c = true)
    (hafter : ∀ c ∈ after, Text.isBlank c = true) (hparts : StrictParts cs e)
    (h : readLenient? (before ++ (cs ++ after)) = some d) : d = e := by
  obtain ⟨rfl, hblanks, hblanks', hblanks'', hsign, hys, hms, hds, hyear, hmonth, hday⟩ := hparts
  have hend : ∀ c, after.head? = some c → c.isDigit = false :=
    fun c hc => (not_digit_of_isBlank (hafter c (List.mem_of_head? hc))).1
  -- blanks in front of the sign are skipped, whichever reader trims them
  rw [readLenient?_skip fun c hc => not_digit_of_isBlank (hbefore c hc), List.append_assoc,
    readLenient?_skip fun c hc => not_digit_of_isBlank (hblanks c hc)] at h
  simp only [List.append_assoc, List.cons_append] at h
  cases hsign with
  | minus =>
    -- only the strict reader takes it
    rw [List.singleton_append, readLenient?_hyphen] at h
    cases h
  | none =>
    obtain ⟨hy, hm, hk⟩ := fields_of_readLenient? hblanks' hblanks'' hys hms hds hend h
    exact eq_of_fields (hy.trans hyear.symm) (hm.trans hmonth.symm) (hk.trans hday.symm)
  | plus =>
    rw [List.singleton_append, readLenient?_plus] at h
    obtain ⟨hy, hm, hk⟩ := fields_of_readLenient? hblanks' hblanks'' hys hms hds hend h
    exact eq_of_fields (hy.trans hyear.symm) (hm.trans hmonth.symm) (hk.trans hday.symm)

theorem clean_eq_ok_iff {text : String} {d : Day} :
    clean text = .ok d ↔ readLenient? text.toList = some d := by
  unfold clean
  split
  · rename_i hread
    rw [hread, Except.ok.injEq, Option.some.injEq]
  · rename_i hread
    rw [hread]
    simp

theorem parse_eq_ok_iff {text : String} {d : Day} :
    parse text = .ok d ↔ readStrict? (Text.trim text.toList) = some d := by
  unfold parse
  split
  · rename_i hread
    rw [hread, Except.ok.injEq, Option.some.injEq]
  · rename_i hread
    rw [hread]
    simp

/-- A request parameter is read as the day that it names, if it names one, and is invalid else; the
    strict reader takes no text for another day. -/
theorem clean_eq_ok_iff_namesDay (text : String) :
    (∀ d, clean text = .ok d ↔ NamesDay text.toList d) ∧
      ((∀ d, ¬NamesDay text.toList d) → clean text = .error (.invalid text)) ∧
      ∀ d e, clean text = .ok d → parse text = .ok e → d = e := by
  refine ⟨?_, ?_, ?_⟩
  · intro d
    rw [clean_eq_ok_iff, readLenient?_eq_some_iff]
  · intro hnone
    have hread : readLenient? text.toList = none := by
      rw [Option.eq_none_iff_forall_ne_some]
      intro d hd
      exact hnone d (readLenient?_eq_some_iff.mp hd)
    unfold clean
    rw [hread]
  · intro d e hclean hparse
    obtain ⟨before, after, hbefore, hafter, htext⟩ := Text.exists_trim_append text.toList
    have hparts := strictParts_of_readStrict? (parse_eq_ok_iff.mp hparse)
    have hread := clean_eq_ok_iff.mp hclean
    rw [htext] at hread
    exact eq_of_strictParts hbefore hafter hparts hread

/-- Blanks and a plus sign are for both readers, and without its day a date is for none. -/
theorem clean_eq_ok_iff_namesDay_sign :
    (∃ d e, clean " +2013-12-08 " = .ok d ∧ parse " +2013-12-08 " = .ok e ∧
        NamesDay " +2013-12-08 ".toList d ∧ d = e) ∧
      (∀ d, ¬NamesDay "2013-12".toList d) ∧ clean "2013-12" = .error (.invalid "2013-12") := by
  have hclean : clean " +2013-12-08 " = .ok ⟨2013, 12, 8, by decide⟩ := by decide
  have hparse : parse " +2013-12-08 " = .ok ⟨2013, 12, 8, by decide⟩ := by decide
  have hshort : clean "2013-12" = .error (.invalid "2013-12") := by decide
  obtain ⟨hnames, -, hsame⟩ := clean_eq_ok_iff_namesDay " +2013-12-08 "
  obtain ⟨hnames', hinvalid, -⟩ := clean_eq_ok_iff_namesDay "2013-12"
  have hnone : ∀ d, ¬NamesDay "2013-12".toList d := by
    intro d hd
    have hok := (hnames' d).mpr hd
    rw [hshort] at hok
    cases hok
  exact ⟨⟨_, _, hclean, hparse, (hnames _).mp hclean, hsame _ _ hclean hparse⟩, hnone,
    hinvalid hnone⟩

end Day

end NodeReport

import NodeReport.Proofs.Calendar.Step
import NodeReport.Proofs.Page.Calendar
import NodeReport.Proofs.Text.UrlEncoding

/-! # Links that can be followed

  Whoever follows a link of a page sends its parameters to the readers of dates and codes. They get
  back the day and the code that the link was made for:

  * `Link.WritesDay.asksForDay`, `Link.asksForCode_networkTarget`: what the parameters of the two
    kinds of targets are read as;
  * `cleanCode_cleanCode`, `networkTarget_eq_codeTarget`: a clean code stays as it is, cleaned again
    or written into a template;
  * `Report.isNavigation_neighbours`: the links of a navigation lead to the days that its steps reach,
    and to no others.
-/

namespace NodeReport

/-! ### Clean codes -/

theorem isAlphanum_toUpper {c : Char} (h : c.isAlphanum = true) :
    c.toUpper.isAlphanum = true ∧ c.toUpper.toUpper = c.toUpper := by
  have hall : ∀ n : Fin 128, (Char.ofNat n).isAlphanum = true →
      (Char.ofNat n).toUpper.isAlphanum = true ∧
        (Char.ofNat n).toUpper.toUpper = (Char.ofNat n).toUpper := by decide
  have hc := hall ⟨c.toNat, Text.toNat_lt_of_isAlphanum h⟩
  simp only [Char.ofNat_toNat] at hc
  exact hc h

/-- A code is at most eight letters and digits, in upper case. -/
theorem mem_cleanCode {text : String} {c : Char} (h : c ∈ (cleanCode text).toList) :
    c.isAlphanum = true ∧ c.toUpper = c := by
  unfold cleanCode at h
  rw [String.toList_ofList] at h
  obtain ⟨d, hd, rfl⟩ := List.mem_map.mp h
  exact isAlphanum_toUpper (List.mem_filter.mp hd).2

theorem length_cleanCode_le (text : String) : (cleanCode text).toList.length ≤ 8 := by
  unfold cleanCode
  rw [String.toList_ofList, List.length_map]
  exact Nat.le_trans (List.length_filter_le _ _) (List.length_take_le _ _)

/-- A clean code is left as it is. -/
theorem cleanCode_cleanCode (text : String) : cleanCode (cleanCode text) = cleanCode text := by
  have htake := List.take_of_length_le (length_cleanCode_le text)
  have hfilter : (cleanCode text).toList.filter Char.isAlphanum = (cleanCode text).toList :=
    List.filter_eq_self.mpr fun c hc => (mem_cleanCode hc).1
  have hmap : (cleanCode text).toList.map Char.toUpper = (cleanCode text).toList :=
    (List.map_congr_left fun c hc => (mem_cleanCode hc).2).trans (List.map_id _)
  calc cleanCode (cleanCode text) =
        String.ofList ((((cleanCode text).toList.take 8).filter Char.isAlphanum).map
          Char.toUpper) := rfl
    _ = cleanCode text := by rw [htake, hfilter, hmap, String.ofList_toList]

/-! ### Templates -/

/-- What has no gap is copied. -/
theorem fillGaps_append {cs : List Char} (h : '\x7b' ∉ cs) (value rest : List Char) :
    fillGaps value (cs ++ rest) = cs ++ fillGaps value rest := by
  induction cs with
  | nil => rfl
  | cons c cs ih =>
    have hne : c ≠ '\x7b' := by
      rintro rfl
      exact h (by simp)
    rw [List.cons_append, fillGaps, ih fun hmem => h (by simp [hmem]), List.cons_append]
    intro _ hc _
    exact hne hc

theorem fillGaps_codeGap (value rest : List Char) :
    fillGaps value (codeGap.toList ++ rest) = value ++ fillGaps value rest := rfl

/-- The template of a month leads to the page of the encoded code in this month. -/
theorem codeTarget_networkTemplate (code : String) (d : Day) :
    codeTarget (networkTemplate d) code = networkTarget (Text.formEncode code) d := by
  have hdate : '\x7b' ∉ d.chars := by
    intro hmem
    rcases Day.mem_chars hmem with h | h | h <;> exact absurd h (by decide)
  have htarget : ∀ c : String, (networkTarget c d).toList =
      networkPage.toList ++ ("?code=".toList ++ (c.toList ++ ("&date=".toList ++ d.chars))) := by
    intro c
    unfold networkTarget Day.text
    simp only [String.toList_append, String.toList_ofList, List.append_assoc]
  have hfilled := fillGaps_append hdate (Text.formEncode code).toList []
  rw [List.append_nil, fillGaps, List.append_nil] at hfilled
  unfold codeTarget networkTemplate
  rw [htarget, fillGaps_append (by decide), fillGaps_append (by decide), fillGaps_codeGap,
    fillGaps_append (by decide), hfilled, ← htarget, String.ofList_toList]

/-- A code of letters and digits is written into the template as into a target of its own. -/
theorem networkTarget_eq_codeTarget {code : String}
    (h : ∀ c ∈ code.toList, c.isAlphanum = true) (d : Day) :
    networkTarget code d = codeTarget (networkTemplate d) code := by
  rw [codeTarget_networkTemplate, Text.formEncode_of_isAlphanum h]

/-! ### Parameters of targets -/

namespace Link

/-- A target whose date is read as a day, by a reader that takes the value as it is written and by
    one that takes it for what it stands for. -/
def AsksForDay (target : String) (d : Day) : Prop :=
  ∃ value, Text.queryValue? "date" target.toList = some value ∧
    Day.clean (String.ofList value) = .ok d ∧ Day.clean (Text.formText value) = .ok d

/-- A target with a code, by a reader of either kind. -/
def AsksForCode (target code : String) : Prop :=
  ∃ value, Text.queryValue? "code" target.toList = some value ∧
    String.ofList value = code ∧ Text.formText value = code

theorem ne_separator_of_isQueryChar {c : Char} (h : Text.IsQueryChar c) : c ≠ '&' ∧ c ≠ '#' := by
  unfold Text.IsQueryChar at h
  constructor <;> rintro rfl <;> exact absurd h (by decide)

/-- A day is a plain value of a parameter. -/
theorem isPlainParameter_date (d : Day) : Text.IsPlainParameter ("date".toList, d.chars) := by
  have hname : "date".toList.all Char.isAlphanum = true := by decide
  refine ⟨show '=' ∉ "date".toList by decide, ?_⟩
  intro c hc
  rcases List.mem_append.mp hc with hc | hc
  · exact ne_separator_of_isQueryChar (.inl (List.all_eq_true.mp hname c hc))
  · rcases List.mem_cons.mp hc with rfl | hc
    · decide
    · rcases Day.mem_chars hc with rfl | rfl | hdigit
      · decide
      · decide
      · exact ne_separator_of_isQueryChar (.inl (Bool.or_eq_true_iff.mpr (.inr hdigit)))

/-- A code that is written for a query is a plain value of a parameter. -/
theorem isPlainParameter_code {code : String} (h : ∀ c ∈ code.toList, Text.IsQueryChar c) :
    Text.IsPlainParameter ("code".toList, code.toList) := by
  have hname : "code".toList.all Char.isAlphanum = true := by decide
  refine ⟨show '=' ∉ "code".toList by decide, ?_⟩
  intro c hc
  rcases List.mem_append.mp hc with hc | hc
  · exact ne_separator_of_isQueryChar (.inl (List.all_eq_true.mp hname c hc))
  · rcases List.mem_cons.mp hc with rfl | hc
    · decide
    · exact ne_separator_of_isQueryChar (h c hc)

theorem queryParameters_dailyTarget (d : Day) :
    Text.queryParameters (dailyTarget d).toList = [("date".toList, d.chars)] := by
  have hdate : "?date=".toList = '?' :: ("date".toList ++ ['=']) := by decide
  have hchars : (dailyTarget d).toList = dailyPage.toList ++ '?' ::
      (Text.parameterChars ("date".toList, d.chars) ++
        [].flatMap fun q => '&' :: Text.parameterChars q) := by
    unfold dailyTarget Day.text Text.parameterChars
    simp only [String.toList_append, String.toList_ofList, hdate, List.flatMap_nil,
      List.append_nil, List.append_assoc, List.cons_append, List.nil_append]
  rw [hchars, Text.queryParameters_append (by decide)]
  simpa using isPlainParameter_date d

theorem queryParameters_networkTarget {code : String}
    (h : ∀ c ∈ code.toList, Text.IsQueryChar c) (d : Day) :
    Text.queryParameters (networkTarget code d).toList =
      [("code".toList, code.toList), ("date".toList, d.chars)] := by
  have hcode : "?code=".toList = '?' :: ("code".toList ++ ['=']) := by decide
  have hdate : "&date=".toList = '&' :: ("date".toList ++ ['=']) := by decide
  have hchars : (networkTarget code d).toList = networkPage.toList ++ '?' ::
      (Text.parameterChars ("code".toList, code.toList) ++
        [("date".toList, d.chars)].flatMap fun q => '&' :: Text.parameterChars q) := by
    unfold networkTarget Day.text Text.parameterChars
    simp only [String.toList_append, String.toList_ofList, hcode, hdate, List.flatMap_cons,
      List.flatMap_nil, List.append_nil, List.append_assoc, List.cons_append, List.nil_append]
  rw [hchars, Text.queryParameters_append (by decide)]
  simpa using ⟨isPlainParameter_code h, isPlainParameter_date d⟩

/-- An address of the pages of days, by what its query says. -/
def WritesDay (address : Day → String) : Prop :=
  ∀ d, Text.queryValue? "date" (address d).toList = some d.chars

theorem writesDay_dailyTarget : WritesDay dailyTarget := by
  intro d
  unfold Text.queryValue?
  rw [queryParameters_dailyTarget]
  rfl

theorem writesDay_networkTarget {code : String} (h : ∀ c ∈ code.toList, c.isAlphanum = true) :
    WritesDay (networkTarget code) := by
  intro d
  unfold Text.queryValue?
  rw [queryParameters_networkTarget fun c hc => .inl (h c hc)]
  rfl

variable {address : Day → String}

/-- Different days have different pages. -/
theorem WritesDay.inj (h : WritesDay address) {a b : Day} :
    address a = address b ↔ a = b := by
  constructor
  · intro heq
    have hchars := h a
    rw [heq, h b] at hchars
    refine Day.text_inj.mp ?_
    unfold Day.text
    rw [Option.some.inj hchars]
  · rintro rfl
    rfl

/-- A day of a year that is not negative is read back from its target. The plus sign of a year above
    9999 stands for a space, but both are skipped. -/
theorem WritesDay.asksForDay (h : WritesDay address) {d : Day} (hyear : 0 ≤ d.year) :
    AsksForDay (address d) d := by
  have hplain : ∀ c ∈ d.unsignedChars, c ≠ '%' ∧ c ≠ '+' := by
    intro c hc
    rcases Day.mem_unsignedChars hc with rfl | hdigit
    · decide
    · constructor <;> rintro rfl <;> exact absurd hdigit (by decide)
  have hclean : ∀ front : List Char, (∀ c ∈ front, c.isDigit = false ∧ c ≠ '-') →
      Day.clean (String.ofList (front ++ d.unsignedChars)) = .ok d :=
    fun _ hfront => Day.clean_append hyear hfront
  refine ⟨d.chars, h d, ?_⟩
  rcases d.chars_cases with ⟨hneg, -⟩ | ⟨-, hchars⟩ | ⟨-, hchars⟩
  · omega
  · rw [hchars]
    refine ⟨hclean ['+'] (List.forall_mem_singleton.mpr (by decide)), ?_⟩
    rw [Text.formText_plus_cons hplain]
    exact hclean [' '] (List.forall_mem_singleton.mpr (by decide))
  · rw [hchars, Text.formText_of_plain hplain]
    exact ⟨hclean [] (by simp), hclean [] (by simp)⟩

theorem asksForCode_networkTarget {code : String} (h : ∀ c ∈ code.toList, c.isAlphanum = true)
    (d : Day) : AsksForCode (networkTarget code d) code := by
  have hplain : ∀ c ∈ code.toList, c ≠ '%' ∧ c ≠ '+' := by
    intro c hc
    have halphanum := h c hc
    constructor <;> rintro rfl <;> exact absurd halphanum (by decide)
  refine ⟨code.toList, ?_, String.ofList_toList, ?_⟩
  · unfold Text.queryValue?
    rw [queryParameters_networkTarget fun c hc => .inl (h c hc)]
    rfl
  · rw [Text.formText_of_plain hplain, String.ofList_toList]

end Link

namespace Report

open Link (AsksForDay AsksForCode WritesDay)

/-! ### Links of a navigation -/

/-- A target that leads to a day which is not after today. The day is read back from it, except in
    years before 0, of which the reader of dates takes the sign for no part of the number. -/
structure LeadsTo (today : Day) (target : String) (d : Day) : Prop where
  /-- The day is not after today. -/
  le_today : d ≤ today
  /-- The target asks for the day. -/
  asksForDay : 0 ≤ d.year → AsksForDay target d

/-- A step of a navigation: its label, and the days that it may lead to. -/
structure NavigationStep where
  /-- What it says. -/
  label : String
  /-- Whether it may lead to a day. -/
  reaches : Day → Prop

/-- A navigation that has a link for each of two steps exactly if the step reaches a day up to
    today. -/
structure IsNavigation (today : Day) (address : Day → String) (back forth : NavigationStep)
    (items : List NavigationItem) : Prop where
  /-- Every link is one of the two steps, and leads to a day up to today. -/
  targets : ∀ item ∈ items, ∀ target, item.target = some target →
    ∃ d, target = address d ∧ LeadsTo today target d ∧
      (item.label = back.label ∧ back.reaches d ∨ item.label = forth.label ∧ forth.reaches d)
  /-- The step back is there for exactly the days that it reaches. -/
  back_iff : ∀ d, (⟨back.label, some (address d)⟩ : NavigationItem) ∈ items ↔
    back.reaches d ∧ d ≤ today
  /-- The step forth is there for exactly the days that it reaches. -/
  forth_iff : ∀ d, (⟨forth.label, some (address d)⟩ : NavigationItem) ∈ items ↔
    forth.reaches d ∧ d ≤ today

theorem mem_neighbour {label : String} {address : Day → String} {day : Option Day}
    {item : NavigationItem} :
    item ∈ neighbour label address day ↔ ∃ d, day = some d ∧ item = ⟨label, some (address d)⟩ := by
  unfold neighbour
  cases day with
  | none => simp
  | some d => simp

/-- The link of a step is there if the step is made. -/
theorem mem_neighbour_iff (label : String) {address : Day → String} (haddress : WritesDay address)
    {day : Option Day} {d : Day} :
    (⟨label, some (address d)⟩ : NavigationItem) ∈ neighbour label address day ↔ day = some d := by
  rw [mem_neighbour]
  constructor
  · rintro ⟨e, rfl, heq⟩
    have htarget := congrArg NavigationItem.target heq
    rw [haddress.inj.mp (Option.some.inj htarget)]
  · intro h
    exact ⟨d, h, rfl⟩

theorem label_of_mem_neighbour {label : String} {address : Day → String} {day : Option Day}
    {item : NavigationItem} (h : item ∈ neighbour label address day) : item.label = label := by
  obtain ⟨d, -, rfl⟩ := mem_neighbour.mp h
  rfl

/-- Steps around a caption are a navigation, if they are made to the days that they reach. -/
theorem isNavigation_neighbours {today : Day} {address : Day → String}
    (haddress : WritesDay address) {back forth : NavigationStep} (hne : back.label ≠ forth.label)
    {before after : Option Day} (hbefore : ∀ d, before = some d ↔ back.reaches d ∧ d ≤ today)
    (hafter : ∀ d, after = some d ↔ forth.reaches d ∧ d ≤ today) (caption : String) :
    IsNavigation today address back forth
      (neighbour back.label address before ++ [{ label := caption }]
        ++ neighbour forth.label address after) where
  targets := by
    intro item hitem target htarget
    have hleads : ∀ d, d ≤ today → LeadsTo today (address d) d :=
      fun d hle => ⟨hle, fun hyear => haddress.asksForDay hyear⟩
    rcases List.mem_append.mp hitem with hitem | hitem
    · rcases List.mem_append.mp hitem with hitem | hitem
      · obtain ⟨d, hd, rfl⟩ := mem_neighbour.mp hitem
        cases htarget
        obtain ⟨hreach, hle⟩ := (hbefore d).mp hd
        exact ⟨d, rfl, hleads d hle, .inl ⟨rfl, hreach⟩⟩
      · -- the caption is no link
        rw [List.mem_singleton.mp hitem] at htarget
        cases htarget
    · obtain ⟨d, hd, rfl⟩ := mem_neighbour.mp hitem
      cases htarget
      obtain ⟨hreach, hle⟩ := (hafter d).mp hd
      exact ⟨d, rfl, hleads d hle, .inr ⟨rfl, hreach⟩⟩
  back_iff := by
    intro d
    rw [← hbefore, ← mem_neighbour_iff back.label haddress, List.mem_append,
      List.mem_append]
    constructor
    · rintro ((h | h) | h)
      · exact h
      · cases List.mem_singleton.mp h
      · exact absurd (label_of_mem_neighbour h) hne
    · intro h
      exact .inl (.inl h)
  forth_iff := by
    intro d
    rw [← hafter, ← mem_neighbour_iff forth.label haddress, List.mem_append,
      List.mem_append]
    constructor
    · rintro ((h | h) | h)
      · exact absurd (label_of_mem_neighbour h).symm hne
      · cases List.mem_singleton.mp h
      · exact h
    · intro h
      exact .inr h

/-! ### The two pages -/

/-- A step by days. -/
def dayStep (label : String) (date : Day) (days : Int) : NavigationStep :=
  ⟨label, fun d => d.number = date.number + days⟩

/-- A step by months, to the first day. -/
def monthStep (label : String) (date : Day) (months : Int) : NavigationStep :=
  ⟨label, fun d => d.day = 1 ∧ d.monthNumber = date.monthNumber + months⟩

theorem isNavigation_daily (store : ReportStore) (today date : Day) (showAll : Bool)
    (updated : Option String) :
    IsNavigation today dailyTarget (dayStep "<< Prev" date (-1)) (dayStep "Next >>" date 1)
      (daily store today date showAll updated).value.navigation :=
  isNavigation_neighbours Link.writesDay_dailyTarget (show "<< Prev" ≠ "Next >>" by decide)
    (fun _ => Day.offset?_eq_some_iff) (fun _ => Day.offset?_eq_some_iff) _

theorem isNavigation_network (store : ReportStore) (today : Day) {code : String}
    (hcode : ∀ c ∈ code.toList, c.isAlphanum = true) (date : Day) (updated : Option String) :
    IsNavigation today (networkTarget code) (monthStep "<< Prev month" date (-1))
      (monthStep "Next month >>" date 1) (network store today code date updated).value.navigation :=
  isNavigation_neighbours (Link.writesDay_networkTarget hcode)
    (show "<< Prev month" ≠ "Next month >>" by decide)
    (fun _ => Day.previousMonth?_eq_some_iff) (fun _ => Day.nextMonth?_eq_some_iff) _

/-! ### Links of the header -/

theorem headerLinks_tableSection {plan : SectionPlan}
    (hplan : plan.options.headerLinks = Keyed.empty) (sources : List Source)
    (fetched : Except StoreError (List Row)) :
    (tableSection plan sources fetched).options.headerLinks = Keyed.empty := by
  cases fetched with
  | ok rows => exact hplan
  | error e => rfl

/-- The labels of the calendar lead to the days of the month up to today, whatever could be read. -/
theorem exists_of_headerLinks_calendarSection {today date : Day} {sources : KnownSources}
    {reported : Except StoreError (List (Int × Day))} {label target : String}
    (h : (calendarSection today date sources reported).options.headerLinks.get? label =
      some target) :
    ∃ d, target = dailyTarget d ∧ d.SameMonth date ∧ LeadsTo today target d := by
  have hmonth := (isMonthUpTo_monthWindow today date).inOneMonth
  have hlink : ∃ d ∈ (Day.monthWindow today date).days,
      label = Availability.columnLabel d ∧ target = dailyTarget d := by
    cases reported with
    | ok pairs => exact (Availability.get?_headerLinks _ hmonth dailyTarget).mp h
    | error e => exact (Availability.get?_headerLinks _ hmonth dailyTarget).mp h
  obtain ⟨d, hd, -, rfl⟩ := hlink
  obtain ⟨hsame, hle⟩ := Day.mem_days_monthWindow.mp hd
  exact ⟨d, rfl, hsame, hle, fun hyear => Link.writesDay_dailyTarget.asksForDay hyear⟩

/-- Only the calendar has links in its header. -/
theorem exists_of_headerLinks_daily {store : ReportStore} {today date : Day} {showAll : Bool}
    {updated : Option String} {s : Section}
    (hs : s ∈ (daily store today date showAll updated).value.sections) {label target : String}
    (h : s.options.headerLinks.get? label = some target) :
    ∃ d, target = dailyTarget d ∧ d.SameMonth date ∧ LeadsTo today target d := by
  have htable : ∀ (plan : SectionPlan) (sources : List Source)
      (fetched : Except StoreError (List Row)), plan.options.headerLinks = Keyed.empty →
      (tableSection plan sources fetched).options.headerLinks.get? label ≠ some target := by
    intro plan sources fetched hplan heq
    rw [headerLinks_tableSection hplan] at heq
    cases heq
  rw [sections_daily] at hs
  obtain ⟨made, hmade, rfl⟩ := List.mem_map.mp hs
  rcases List.mem_append.mp hmade with hmade | hmade
  · rcases List.mem_cons.mp hmade with rfl | hmade
    · exact exists_of_headerLinks_calendarSection h
    · obtain ⟨kind, -, rfl⟩ := List.mem_map.mp hmade
      exact absurd h (htable (dailyPlan kind) _ _ rfl)
  · rw [List.mem_singleton.mp hmade] at h
    exact absurd h (htable monthMessagesPlan _ _ rfl)

/-- Every link of the two pages can be followed: it leads to a day up to today, which the reader of
    dates gets back from it, and the links between the pages of a network keep its code. -/
theorem links_can_be_followed (store : ReportStore) (today date : Day) (showAll : Bool)
    (updated : Option String) (text : String) :
    IsNavigation today dailyTarget (dayStep "<< Prev" date (-1)) (dayStep "Next >>" date 1)
        (daily store today date showAll updated).value.navigation ∧
      (∀ s ∈ (daily store today date showAll updated).value.sections, ∀ label target,
        s.options.headerLinks.get? label = some target →
          ∃ d, target = dailyTarget d ∧ d.SameMonth date ∧ LeadsTo today target d) ∧
      IsNavigation today (networkTarget (cleanCode text)) (monthStep "<< Prev month" date (-1))
        (monthStep "Next month >>" date 1)
        (network store today (cleanCode text) date updated).value.navigation ∧
      (∀ d, AsksForCode (networkTarget (cleanCode text) d) (cleanCode text) ∧
        networkTarget (cleanCode text) d = codeTarget (networkTemplate d) (cleanCode text)) ∧
      cleanCode (cleanCode text) = cleanCode text := by
  have hcode : ∀ c ∈ (cleanCode text).toList, c.isAlphanum = true := fun c hc => (mem_cleanCode hc).1
  refine ⟨isNavigation_daily store today date showAll updated, ?_,
    isNavigation_network store today hcode date updated, ?_, cleanCode_cleanCode text⟩
  · intro s hs label target h
    exact exists_of_headerLinks_daily hs h
  · intro d
    exact ⟨Link.asksForCode_networkTarget hcode d, networkTarget_eq_codeTarget hcode d⟩

end Report

end NodeReport

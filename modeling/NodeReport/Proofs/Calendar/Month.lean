import NodeReport.Proofs.Calendar.Window

/-! # The days of a month

  The days of a month lie between its first and its last one, also in the last month of the
  calendar. Up to today these are the days of the month's window. Months are told apart by a number
  that grows by one from each month to the next.

  * `addMonths?_eq_some_iff`: from a first day as many months are counted as are asked for;
  * `daysInMonth_eq_monthLength`: the day before the next month is the last one of the month;
  * `sameMonth_of_between`: no day of another month lies between two of a month;
  * `mem_days_monthWindow`: the days of the window.
-/

namespace NodeReport

namespace Day

/-! ### Months -/

/-- Whether two days have the same month. -/
def SameMonth (a b : Day) : Prop :=
  a.year = b.year ∧ a.month = b.month

theorem SameMonth.symm {a b : Day} (h : SameMonth a b) : SameMonth b a :=
  ⟨h.1.symm, h.2.symm⟩

theorem SameMonth.trans {a b c : Day} (hab : SameMonth a b) (hbc : SameMonth b c) : SameMonth a c :=
  ⟨hab.1.trans hbc.1, hab.2.trans hbc.2⟩

/-- Within a month days are counted by the day of the month. -/
theorem SameMonth.number_eq {a b : Day} (h : SameMonth a b) :
    a.number - a.day = b.number - b.day := by
  unfold number
  rw [h.1, h.2]
  omega

theorem sameMonth_of_between {a b d : Day} (h : SameMonth a b) (hlow : a ≤ d) (hhigh : d ≤ b) :
    SameMonth d a := by
  rw [le_def] at hlow hhigh
  -- a day of another year or month would lie outside
  have hyear : d.year = a.year := by
    rcases Int.lt_trichotomy d.year a.year with hlt | heq | hlt
    · have := number_lt_of_year_lt hlt
      omega
    · exact heq
    · have := number_lt_of_year_lt (a := b) (b := d) (by rw [← h.1]; exact hlt)
      omega
  refine ⟨hyear, ?_⟩
  rcases Nat.lt_trichotomy d.month a.month with hlt | heq | hlt
  · have := number_lt_of_month_lt hyear hlt
    omega
  · exact heq
  · have := number_lt_of_month_lt (a := b) (b := d) (by rw [hyear, h.1]) (by rw [← h.2]; exact hlt)
    omega

/-! ### Months by number -/

/-- The number of a day's month, counted from the year 0. -/
def monthNumber (d : Day) : Int :=
  12 * d.year + d.month

theorem sameMonth_iff_monthNumber {a b : Day} : SameMonth a b ↔ a.monthNumber = b.monthNumber := by
  have ha := a.month_bounds
  have hb := b.month_bounds
  unfold SameMonth monthNumber
  omega

/-- A day is told by its month and by its number in it. -/
theorem eq_of_monthNumber {a b : Day} (h : a.monthNumber = b.monthNumber) (hday : a.day = b.day) :
    a = b := by
  obtain ⟨hyear, hmonth⟩ := sameMonth_iff_monthNumber.mpr h
  exact eq_of_fields hyear hmonth hday

/-- Days are ordered by their months first. -/
theorem number_lt_of_monthNumber_lt {a b : Day} (h : a.monthNumber < b.monthNumber) :
    a.number < b.number := by
  have ha := a.month_bounds
  have hb := b.month_bounds
  unfold monthNumber at h
  by_cases hyear : a.year = b.year
  · exact number_lt_of_month_lt hyear (by omega)
  · exact number_lt_of_year_lt (by omega)

/-- From January of the first year to December of the last one every month has a first day. -/
theorem exists_of_monthNumber {k : Int} (hlow : 12 * firstYear + 1 ≤ k)
    (hhigh : k ≤ 12 * lastYear + 12) : ∃ f : Day, f.day = 1 ∧ f.monthNumber = k := by
  have hvalid : IsDate ((k - 1) / 12) (((k - 1) % 12).toNat + 1) 1 :=
    ⟨by omega, by omega, by omega, by omega, Nat.le_refl 1, (monthLength_bounds _ _).1⟩
  refine ⟨⟨_, _, _, hvalid⟩, rfl, ?_⟩
  unfold monthNumber
  simp only
  omega

theorem monthNumber_bounds (d : Day) :
    12 * firstYear + 1 ≤ d.monthNumber ∧ d.monthNumber ≤ 12 * lastYear + 12 := by
  have hmonth := d.month_bounds
  have hfirst := d.valid.1
  have hlast := d.valid.2.1
  unfold monthNumber
  omega

/-! ### The first day of a month -/

theorem withDay?_eq_some_iff {d r : Day} {day : Nat} :
    d.withDay? day = some r ↔ SameMonth r d ∧ r.day = day := by
  unfold withDay? SameMonth
  rw [ofFields?_eq_some_iff, and_assoc]

/-- A month has all days up to its length. -/
theorem exists_withDay? (d : Day) (day : Nat) (hlow : 1 ≤ day)
    (hhigh : day ≤ monthLength d.year d.month) : ∃ r, d.withDay? day = some r := by
  obtain ⟨hfirst, hlast, hmonth, hmonth', -, -⟩ := d.valid
  have hvalid : IsDate d.year d.month day := ⟨hfirst, hlast, hmonth, hmonth', hlow, hhigh⟩
  exact ⟨⟨_, _, _, hvalid⟩, withDay?_eq_some_iff.mpr ⟨⟨rfl, rfl⟩, rfl⟩⟩

/-- The first day of a month, which every month has. -/
theorem monthStart_spec (d : Day) : SameMonth d.monthStart d ∧ d.monthStart.day = 1 := by
  obtain ⟨first, hfirst⟩ := d.exists_withDay? 1 (Nat.le_refl 1) (monthLength_bounds _ _).1
  unfold monthStart
  rw [hfirst]
  exact withDay?_eq_some_iff.mp hfirst

theorem monthNumber_monthStart (d : Day) : d.monthStart.monthNumber = d.monthNumber :=
  sameMonth_iff_monthNumber.mp d.monthStart_spec.1

/-! ### Steps between months -/

/-- Counting months from a first day leads to a first day, which no month is too short for. -/
theorem addMonths?_eq_some_iff {d f : Day} (hd : d.day = 1) {months : Int} :
    d.addMonths? months = some f ↔ f.day = 1 ∧ f.monthNumber = d.monthNumber + months := by
  have hmonth := f.month_bounds
  unfold addMonths?
  simp only
  rw [ofFields?_eq_some_iff, hd, Nat.min_eq_left (monthLength_bounds _ _).1]
  unfold monthNumber
  omega

/-- The step to the next month leads to its first day, if the calendar has one. -/
theorem nextMonthStart?_eq_some_iff {d f : Day} :
    d.nextMonthStart? = some f ↔ f.day = 1 ∧ f.monthNumber = d.monthNumber + 1 := by
  unfold nextMonthStart?
  rw [addMonths?_eq_some_iff d.monthStart_spec.2, monthNumber_monthStart]

/-- The step to the month before leads to its first day, if the calendar has one. -/
theorem previousMonthStart?_eq_some_iff {d p : Day} :
    d.previousMonthStart? = some p ↔ p.day = 1 ∧ p.monthNumber = d.monthNumber - 1 := by
  unfold previousMonthStart?
  rw [addMonths?_eq_some_iff d.monthStart_spec.2, monthNumber_monthStart, Int.sub_eq_add_neg]

/-! ### Lengths of months -/

/-- From the first day of a month to that of the next one it is the length of the month. -/
theorem number_eq_of_nextMonthStart? {d f : Day} (h : d.nextMonthStart? = some f) :
    f.number = d.monthStart.number + monthLength d.year d.month := by
  obtain ⟨hday, hnumber⟩ := nextMonthStart?_eq_some_iff.mp h
  obtain ⟨⟨hyear, hmonth⟩, hfirst⟩ := d.monthStart_spec
  have hd := d.month_bounds
  have hf := f.month_bounds
  have hsucc := daysBeforeMonth_succ d.year hd.1
  unfold monthNumber at hnumber
  unfold number
  rw [hyear, hmonth, hfirst, hday]
  by_cases hdecember : d.month = 12
  · -- the months of the year are over
    have hnext : f.year = d.year + 1 ∧ f.month = 1 := by omega
    rw [hdecember] at hsucc ⊢
    rw [daysBeforeMonth_thirteen] at hsucc
    rw [hnext.1, hnext.2, daysBeforeYear_succ, show daysBeforeMonth (d.year + 1) 1 = 0 from rfl]
    omega
  · have hnext : f.year = d.year ∧ f.month = d.month + 1 := by omega
    rw [hnext.1, hnext.2]
    omega

/-- Only the last month of the calendar has no next one. -/
theorem eq_lastMonth_of_nextMonthStart? {d : Day} (h : d.nextMonthStart? = none) :
    d.year = lastYear ∧ d.month = 12 := by
  have hbounds := d.monthNumber_bounds
  have hmonth := d.month_bounds
  by_cases hlast : d.monthNumber = 12 * lastYear + 12
  · unfold monthNumber at hlast
    omega
  · obtain ⟨f, hday, hnumber⟩ := exists_of_monthNumber (k := d.monthNumber + 1) (by omega) (by omega)
    rw [nextMonthStart?_eq_some_iff.mpr ⟨hday, hnumber⟩] at h
    cases h

/-- The day before the next month, and the thirty-first of December in the last year, are called as
    many as their months have days. -/
theorem daysInMonth_eq_monthLength (d : Day) : d.daysInMonth = monthLength d.year d.month := by
  unfold daysInMonth
  cases hnext : d.nextMonthStart? with
  | none =>
    obtain ⟨-, hmonth⟩ := eq_lastMonth_of_nextMonthStart? hnext
    rw [hmonth]
    rfl
  | some next =>
    obtain ⟨last, hlast⟩ := d.exists_withDay? _ (monthLength_bounds _ _).1 (Nat.le_refl _)
    obtain ⟨hsame, hday⟩ := withDay?_eq_some_iff.mp hlast
    have hstart := (hsame.trans d.monthStart_spec.1.symm).number_eq
    have hnumber := number_eq_of_nextMonthStart? hnext
    rw [hday, d.monthStart_spec.2] at hstart
    have hshift : next.shift? (-1) = some last := by
      rw [shift?_eq_some_iff]
      omega
    simp only [Option.bind_some, hshift]
    exact hday

theorem monthEnd_spec (d : Day) : SameMonth d.monthEnd d ∧ d.monthEnd.day = d.daysInMonth := by
  obtain ⟨last, hlast⟩ := d.exists_withDay? d.daysInMonth
    (by rw [daysInMonth_eq_monthLength]; exact (monthLength_bounds _ _).1)
    (Nat.le_of_eq d.daysInMonth_eq_monthLength)
  unfold monthEnd
  rw [hlast]
  exact withDay?_eq_some_iff.mp hlast

/-! ### First and last days -/

theorem monthStart_le_and_le_monthEnd_iff {date d : Day} :
    (date.monthStart ≤ d ∧ d ≤ date.monthEnd) ↔ SameMonth d date := by
  obtain ⟨hstart, hfirst⟩ := date.monthStart_spec
  obtain ⟨hend, hlast⟩ := date.monthEnd_spec
  constructor
  · rintro ⟨hlow, hhigh⟩
    exact (sameMonth_of_between (hstart.trans hend.symm) hlow hhigh).trans hstart
  · intro h
    have hlow := (h.trans hstart.symm).number_eq
    have hhigh := (h.trans hend.symm).number_eq
    have hday := d.day_bounds
    rw [h.1, h.2] at hday
    rw [hlast, daysInMonth_eq_monthLength] at hhigh
    rw [le_def, le_def]
    omega

/-- A month is told by its first day. -/
theorem monthStart_eq_iff {a b : Day} : a.monthStart = b.monthStart ↔ SameMonth a b := by
  obtain ⟨ha, hday⟩ := a.monthStart_spec
  obtain ⟨hb, hday'⟩ := b.monthStart_spec
  constructor
  · intro h
    rw [h] at ha
    exact ha.symm.trans hb
  · intro h
    obtain ⟨hyear, hmonth⟩ := (ha.trans h).trans hb.symm
    exact eq_of_fields hyear hmonth (hday.trans hday'.symm)

/-- A month is told by its last day. -/
theorem monthEnd_eq_iff {a b : Day} : a.monthEnd = b.monthEnd ↔ SameMonth a b := by
  obtain ⟨ha, hday⟩ := a.monthEnd_spec
  obtain ⟨hb, hday'⟩ := b.monthEnd_spec
  rw [daysInMonth_eq_monthLength] at hday hday'
  constructor
  · intro h
    rw [h] at ha
    exact ha.symm.trans hb
  · intro h
    obtain ⟨hyear, hmonth⟩ := (ha.trans h).trans hb.symm
    exact eq_of_fields hyear hmonth (by rw [hday, hday', h.1, h.2])

/-- The days between the first and the last one of a month are the days of the month. The last one
    is called as many as the month has days, with a leap day as the calendar asks for it, and the
    two depend on the month only. -/
theorem monthStart_monthEnd_bound_month (d e : Day) :
    (d.monthStart ≤ e ∧ e ≤ d.monthEnd ↔ SameMonth e d) ∧
      (d.monthEnd.day = d.daysInMonth ∧ d.daysInMonth = monthLength d.year d.month) ∧
      (isLeapYear d.year = true ↔ d.year % 4 = 0 ∧ (d.year % 100 ≠ 0 ∨ d.year % 400 = 0)) ∧
      (d.monthStart.monthStart = d.monthStart ∧ d.monthEnd.monthEnd = d.monthEnd) ∧
      (d.monthStart = e.monthStart ↔ SameMonth d e) ∧ (d.monthEnd = e.monthEnd ↔ SameMonth d e) := by
  refine ⟨monthStart_le_and_le_monthEnd_iff, ⟨d.monthEnd_spec.2, d.daysInMonth_eq_monthLength⟩,
    isLeapYear_iff d.year, ⟨?_, ?_⟩, monthStart_eq_iff, monthEnd_eq_iff⟩
  · exact monthStart_eq_iff.mpr d.monthStart_spec.1
  · exact monthEnd_eq_iff.mpr d.monthEnd_spec.1

/-- The last month of the calendar ends with the calendar, and the first one starts with it. -/
example : greatest.monthStart.monthEnd = greatest ∧ least.monthEnd.monthStart = least := by decide

/-! ### The window of a month -/

theorem monthWindow_eq (today date : Day) :
    monthWindow today date = ⟨date.monthStart, date.monthEnd.earlier today⟩ := by
  obtain ⟨hstart, hfirst⟩ := date.monthStart_spec
  obtain ⟨hend, hlast⟩ := date.monthEnd_spec
  have hnumber := (hend.trans hstart.symm).number_eq
  have hlength := (monthLength_bounds date.year date.month).1
  rw [← daysInMonth_eq_monthLength] at hlength
  have hshift : date.monthStart.daysLater? ((date.daysInMonth : Int) - 1).natAbs =
      some date.monthEnd := by
    rw [daysLater?_eq_some_iff]
    omega
  have hpos : ¬ ((date.daysInMonth : Int) - 1 < 0) := by omega
  unfold monthWindow dayRange
  simp only [hshift, if_neg hpos, Option.getD_some]

/-- The window of a month lists the days of the month that do not lie after today. -/
theorem mem_days_monthWindow {today date d : Day} :
    d ∈ (monthWindow today date).days ↔ SameMonth d date ∧ d ≤ today := by
  rw [DayWindow.mem_days, monthWindow_eq, le_earlier_iff, ← and_assoc,
    monthStart_le_and_le_monthEnd_iff]

end Day

end NodeReport

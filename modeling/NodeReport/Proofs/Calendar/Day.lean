import NodeReport.Calendar.Day

/-! # Days and their numbers

  Numbering the days is one-to-one, and the day with a number is found by `ofNumber?`. Days are
  ordered like their years, then their months, then their days of the month.

  * `yearOfNumber_spec`: the guess of the year, corrected by at most one, is right;
  * `monthAndDay_spec`: the search among the months ends in the month of the day;
  * `ofNumber?_eq_some_iff`: the two together invert `number`;
  * `exists_number_eq`: the numbers of days have no gaps;
  * `daysLater?_eq_some_iff`, `daysEarlier?_eq_some_iff`: no two days are too far apart to be counted
    from one to the other.
-/

namespace NodeReport

/-! ### Years -/

/-- Number of days of a year. -/
def yearLength (year : Int) : Nat :=
  if isLeapYear year then 366 else 365

theorem isLeapYear_iff (year : Int) :
    isLeapYear year = true ↔ year % 4 = 0 ∧ (year % 100 ≠ 0 ∨ year % 400 = 0) := by
  simp [isLeapYear]

theorem daysBeforeYear_succ (year : Int) :
    daysBeforeYear (year + 1) = daysBeforeYear year + yearLength year := by
  unfold daysBeforeYear yearLength
  have hleap := isLeapYear_iff year
  -- the three quotients grow by one exactly when the year is divisible by 4, 100 and 400
  by_cases h : isLeapYear year = true
  · have := hleap.mp h
    simp only [h, if_true]
    omega
  · have : ¬ (year % 4 = 0 ∧ (year % 100 ≠ 0 ∨ year % 400 = 0)) := fun hc => h (hleap.mpr hc)
    simp only [h]
    simp
    omega

theorem daysBeforeYear_le {a b : Int} (h : a ≤ b) : daysBeforeYear a ≤ daysBeforeYear b := by
  simp only [daysBeforeYear]
  omega

/-! ### Months -/

theorem monthLength_bounds (year : Int) (month : Nat) :
    1 ≤ monthLength year month ∧ monthLength year month ≤ 31 := by
  unfold monthLength
  split
  · split <;> omega
  · split <;> omega

theorem daysBeforeMonth_succ (year : Int) {m : Nat} (h : 1 ≤ m) :
    daysBeforeMonth year (m + 1) = daysBeforeMonth year m + monthLength year m := by
  obtain ⟨k, rfl⟩ : ∃ k, m = k + 1 := ⟨m - 1, by omega⟩
  rfl

theorem daysBeforeMonth_le (year : Int) {m n : Nat} (h : m ≤ n) :
    daysBeforeMonth year m ≤ daysBeforeMonth year n := by
  induction n with
  | zero =>
    have hzero : m = 0 := by omega
    exact Nat.le_of_eq (congrArg (daysBeforeMonth year) hzero)
  | succ n ih =>
    by_cases hlast : m = n + 1
    · exact Nat.le_of_eq (congrArg (daysBeforeMonth year) hlast)
    · have hprev := ih (by omega)
      by_cases hn : n = 0
      · rw [hn] at hprev ⊢
        exact hprev
      · have := daysBeforeMonth_succ year (m := n) (by omega)
        omega

/-- The twelve months make up the year. -/
theorem daysBeforeMonth_thirteen (year : Int) : daysBeforeMonth year 13 = yearLength year := by
  unfold yearLength
  by_cases h : isLeapYear year = true <;> simp [daysBeforeMonth, monthLength, h]

namespace Day

theorem day_bounds (d : Day) : 1 ≤ d.day ∧ d.day ≤ monthLength d.year d.month :=
  d.valid.2.2.2.2

theorem month_bounds (d : Day) : 1 ≤ d.month ∧ d.month ≤ 12 :=
  ⟨d.valid.2.2.1, d.valid.2.2.2.1⟩

/-! ### Order -/

theorem number_lt_of_year_lt {a b : Day} (h : a.year < b.year) : a.number < b.number := by
  have ha := a.day_bounds
  have hb := b.day_bounds
  have hmonth := daysBeforeMonth_le a.year (m := a.month + 1) (n := 13) (by have := a.month_bounds; omega)
  have hsucc := daysBeforeMonth_succ a.year a.month_bounds.1
  have hyear := daysBeforeYear_succ a.year
  have hle := daysBeforeYear_le (a := a.year + 1) (b := b.year) (by omega)
  -- the day lies before the end of its month, hence before the end of its year
  rw [daysBeforeMonth_thirteen] at hmonth
  unfold number
  omega

theorem number_lt_of_month_lt {a b : Day} (hyear : a.year = b.year) (h : a.month < b.month) :
    a.number < b.number := by
  have ha := a.day_bounds
  have hb := b.day_bounds
  have hmonth := daysBeforeMonth_le a.year (m := a.month + 1) (n := b.month) (by omega)
  have hsucc := daysBeforeMonth_succ a.year a.month_bounds.1
  unfold number
  rw [← hyear]
  omega

/-- Days are ordered by year, then by month, then by day of the month. -/
theorem compare_number (a b : Day) :
    compare a.number b.number =
      (compare a.year b.year).then ((compare a.month b.month).then (compare a.day b.day)) := by
  rcases Int.lt_trichotomy a.year b.year with hy | hy | hy
  · rw [Int.compare_eq_lt.mpr (number_lt_of_year_lt hy), Int.compare_eq_lt.mpr hy]
    rfl
  · rw [Int.compare_eq_eq.mpr hy]
    rcases Nat.lt_trichotomy a.month b.month with hm | hm | hm
    · rw [Int.compare_eq_lt.mpr (number_lt_of_month_lt hy hm), Nat.compare_eq_lt.mpr hm]
      rfl
    · -- within a month only the day of the month tells the numbers apart
      rw [Nat.compare_eq_eq.mpr hm]
      have hnumber : a.number - b.number = (a.day : Int) - b.day := by
        unfold number
        rw [hy, hm]
        omega
      rcases Nat.lt_trichotomy a.day b.day with hd | hd | hd
      · rw [Int.compare_eq_lt.mpr (by omega), Nat.compare_eq_lt.mpr hd]
        rfl
      · rw [Int.compare_eq_eq.mpr (by omega), Nat.compare_eq_eq.mpr hd]
        rfl
      · rw [Int.compare_eq_gt.mpr (by omega), Nat.compare_eq_gt.mpr hd]
        rfl
    · rw [Int.compare_eq_gt.mpr (number_lt_of_month_lt hy.symm hm), Nat.compare_eq_gt.mpr hm]
      rfl
  · rw [Int.compare_eq_gt.mpr (number_lt_of_year_lt hy), Int.compare_eq_gt.mpr hy]
    rfl

theorem le_def {a b : Day} : a ≤ b ↔ a.number ≤ b.number := Iff.rfl

/-- The years of days are ordered like the days. -/
theorem year_le_of_le {a b : Day} (h : a ≤ b) : a.year ≤ b.year := by
  by_cases hy : a.year ≤ b.year
  · exact hy
  · have := number_lt_of_year_lt (a := b) (b := a) (by omega)
    rw [le_def] at h
    omega

theorem eq_of_fields {a b : Day} (hy : a.year = b.year) (hm : a.month = b.month)
    (hd : a.day = b.day) : a = b := by
  cases a
  cases b
  cases hy
  cases hm
  cases hd
  rfl

/-- No two days have the same number. -/
theorem number_inj {a b : Day} : a.number = b.number ↔ a = b := by
  constructor
  · intro h
    have hcompare := compare_number a b
    rw [Int.compare_eq_eq.mpr h] at hcompare
    have hthen := Ordering.then_eq_eq.mp hcompare.symm
    have hrest := Ordering.then_eq_eq.mp hthen.2
    exact eq_of_fields (Int.compare_eq_eq.mp hthen.1) (Nat.compare_eq_eq.mp hrest.1)
      (Nat.compare_eq_eq.mp hrest.2)
  · intro h
    rw [h]

/-! ### Days by number -/

/-- The year of a number is the one whose days hold it. -/
theorem yearOfNumber_spec (n : Int) :
    daysBeforeYear (yearOfNumber n) ≤ n ∧ n < daysBeforeYear (yearOfNumber n + 1) := by
  unfold yearOfNumber
  -- the guess is off by one at most, since 400 years have 146097 days
  simp only
  split
  · simp only [daysBeforeYear] at *
    omega
  · split
    · simp only [daysBeforeYear] at *
      omega
    · omega

theorem eq_of_daysBeforeYear {n year other : Int}
    (h : daysBeforeYear year ≤ n ∧ n < daysBeforeYear (year + 1))
    (hother : daysBeforeYear other ≤ n ∧ n < daysBeforeYear (other + 1)) : year = other := by
  rcases Int.lt_trichotomy year other with hlt | heq | hlt
  · have := daysBeforeYear_le (a := year + 1) (b := other) (by omega)
    omega
  · exact heq
  · have := daysBeforeYear_le (a := other + 1) (b := year) (by omega)
    omega

/-- The month that is found holds the day, provided that it is one of those tried. -/
theorem monthAndDay_spec (year : Int) (before : Nat) :
    ∀ m, before < daysBeforeMonth year (m + 1) →
      1 ≤ (monthAndDay year before m).1 ∧ (monthAndDay year before m).1 ≤ m ∧
      1 ≤ (monthAndDay year before m).2 ∧
      (monthAndDay year before m).2 ≤ monthLength year (monthAndDay year before m).1 ∧
      daysBeforeMonth year (monthAndDay year before m).1 + (monthAndDay year before m).2 =
        before + 1 := by
  intro m
  induction m with
  | zero =>
    intro h
    exact absurd h (Nat.not_lt_zero _)
  | succ m ih =>
    intro h
    rw [monthAndDay]
    -- either this month starts early enough, or the day lies in one before it
    split
    · rename_i hle
      have hsucc := daysBeforeMonth_succ year (m := m + 1) (by omega)
      simp only
      omega
    · rename_i hgt
      have := ih (by omega)
      omega

/-- A month holds no day of another one. -/
theorem eq_of_daysBeforeMonth {year : Int} {month other day otherDay : Nat}
    (hmonth : 1 ≤ month) (hother : 1 ≤ other)
    (hday : 1 ≤ day ∧ day ≤ monthLength year month)
    (hotherDay : 1 ≤ otherDay ∧ otherDay ≤ monthLength year other)
    (h : daysBeforeMonth year month + day = daysBeforeMonth year other + otherDay) :
    month = other ∧ day = otherDay := by
  have hsucc := daysBeforeMonth_succ year hmonth
  have hsucc' := daysBeforeMonth_succ year hother
  -- of two different months one ends before the other starts
  rcases Nat.lt_trichotomy month other with hlt | heq | hlt
  · have := daysBeforeMonth_le year (m := month + 1) (n := other) hlt
    omega
  · subst heq
    exact ⟨rfl, by omega⟩
  · have := daysBeforeMonth_le year (m := other + 1) (n := month) hlt
    omega

/-- The number of a day lies among the numbers of its year. -/
theorem number_bounds (d : Day) :
    daysBeforeYear d.year ≤ d.number ∧ d.number < daysBeforeYear (d.year + 1) := by
  have hday := d.day_bounds
  have hmonth := d.month_bounds
  have hle := daysBeforeMonth_le d.year (m := d.month + 1) (n := 13) (by omega)
  have hsucc := daysBeforeMonth_succ d.year hmonth.1
  have hyear := daysBeforeYear_succ d.year
  rw [daysBeforeMonth_thirteen] at hle
  unfold number
  omega

theorem ofFields?_eq_some_iff {year : Int} {month day : Nat} {d : Day} :
    ofFields? year month day = some d ↔ d.year = year ∧ d.month = month ∧ d.day = day := by
  unfold ofFields?
  constructor
  · intro h
    split at h
    · cases h
      exact ⟨rfl, rfl, rfl⟩
    · cases h
  · rintro ⟨rfl, rfl, rfl⟩
    rw [dif_pos d.valid]

/-- Month and day that are found for a number, in the year of the number. -/
theorem monthAndDay_yearOfNumber (n : Int) :
    ∃ month day,
      monthAndDay (yearOfNumber n) (n - daysBeforeYear (yearOfNumber n)).toNat 12 = (month, day) ∧
        (1 ≤ month ∧ month ≤ 12) ∧ (1 ≤ day ∧ day ≤ monthLength (yearOfNumber n) month) ∧
        daysBeforeYear (yearOfNumber n) + daysBeforeMonth (yearOfNumber n) month + (day - 1 : Int)
          = n := by
  have hyear := yearOfNumber_spec n
  have hsucc := daysBeforeYear_succ (yearOfNumber n)
  have hbefore : (n - daysBeforeYear (yearOfNumber n)).toNat
      < daysBeforeMonth (yearOfNumber n) (12 + 1) := by
    rw [daysBeforeMonth_thirteen]
    omega
  obtain ⟨hlow, hhigh, hday, hday', hsum⟩ := monthAndDay_spec (yearOfNumber n) _ 12 hbefore
  generalize monthAndDay (yearOfNumber n) (n - daysBeforeYear (yearOfNumber n)).toNat 12 = found
    at hlow hhigh hday hday' hsum ⊢
  exact ⟨found.1, found.2, rfl, ⟨hlow, hhigh⟩, ⟨hday, hday'⟩, by omega⟩

/-- The day with a number is the one that has it. -/
theorem ofNumber?_eq_some_iff {n : Int} {d : Day} : ofNumber? n = some d ↔ d.number = n := by
  obtain ⟨month, day, hfound, hmonth, hday, hnumber⟩ := monthAndDay_yearOfNumber n
  unfold ofNumber?
  simp only [hfound]
  rw [ofFields?_eq_some_iff]
  constructor
  · rintro ⟨hy, hm, hd⟩
    unfold number
    rw [hy, hm, hd]
    exact hnumber
  · -- year and month of a number are unique, so they are those of the day
    rintro rfl
    have hy : d.year = yearOfNumber d.number :=
      eq_of_daysBeforeYear d.number_bounds (yearOfNumber_spec d.number)
    rw [← hy] at hday hnumber ⊢
    have hsum : daysBeforeMonth d.year d.month + d.day = daysBeforeMonth d.year month + day := by
      have hn : d.number = daysBeforeYear d.year + daysBeforeMonth d.year d.month + (d.day - 1) := rfl
      omega
    have hsame := eq_of_daysBeforeMonth d.month_bounds.1 hmonth.1 d.day_bounds hday hsum
    exact ⟨rfl, hsame.1, hsame.2⟩

/-- The numbers of days have no gaps: every number between those of two days is the number of a
    day. -/
theorem exists_number_eq {d e : Day} {n : Int} (hlow : d.number ≤ n) (hhigh : n ≤ e.number) :
    ∃ r : Day, r.number = n := by
  have hyear := yearOfNumber_spec n
  obtain ⟨month, day, -, hmonth, hday, hnumber⟩ := monthAndDay_yearOfNumber n
  -- the year of the number is not before that of the one day, nor after that of the other
  have hfirst : d.year ≤ yearOfNumber n := by
    by_cases hle : d.year ≤ yearOfNumber n
    · exact hle
    · have hgrow := daysBeforeYear_le (a := yearOfNumber n + 1) (b := d.year) (by omega)
      have hd := d.number_bounds
      omega
  have hlast : yearOfNumber n ≤ e.year := by
    by_cases hle : yearOfNumber n ≤ e.year
    · exact hle
    · have hgrow := daysBeforeYear_le (a := e.year + 1) (b := yearOfNumber n) (by omega)
      have he := e.number_bounds
      omega
  have hvalid : IsDate (yearOfNumber n) month day :=
    ⟨Int.le_trans d.valid.1 hfirst, Int.le_trans hlast e.valid.2.1, hmonth.1, hmonth.2, hday⟩
  exact ⟨⟨yearOfNumber n, month, day, hvalid⟩, hnumber⟩

theorem shift?_eq_some_iff {d r : Day} {days : Int} :
    d.shift? days = some r ↔ r.number = d.number + days :=
  ofNumber?_eq_some_iff

/-! ### Days counted on and back -/

theorem least_le (d : Day) : least ≤ d := by
  have hd := d.number_bounds.1
  have hyear := daysBeforeYear_le d.valid.1
  have hfirst : least.number = daysBeforeYear firstYear := by decide
  rw [le_def]
  omega

theorem le_greatest (d : Day) : d ≤ greatest := by
  have hd := d.number_bounds.2
  have hlast : d.year ≤ lastYear := d.valid.2.1
  have hyear := daysBeforeYear_le (a := d.year + 1) (b := lastYear + 1) (by omega)
  have hnext : greatest.number + 1 = daysBeforeYear (lastYear + 1) := by decide
  rw [le_def]
  omega

/-- A day does not lie after the earlier one of two if it lies after neither. -/
theorem le_earlier_iff {e a b : Day} : e ≤ a.earlier b ↔ e ≤ a ∧ e ≤ b := by
  unfold earlier
  by_cases h : a ≤ b
  · rw [if_pos h]
    simp only [le_def] at *
    omega
  · rw [if_neg h]
    simp only [le_def] at *
    omega

/-- The whole calendar has fewer days than are counted at once. -/
theorem number_sub_number_le (a b : Day) : a.number - b.number ≤ longestShift := by
  have ha := le_def.mp a.le_greatest
  have hb := le_def.mp b.least_le
  have hsize : greatest.number - least.number ≤ longestShift := by decide
  omega

theorem daysLater?_eq_some_iff {d r : Day} {days : Nat} :
    d.daysLater? days = some r ↔ r.number = d.number + days := by
  have hreach := number_sub_number_le r d
  unfold daysLater?
  by_cases hshort : days ≤ longestShift
  · rw [if_pos hshort, shift?_eq_some_iff]
  · -- no day lies so far away
    rw [if_neg hshort]
    constructor
    · intro h
      cases h
    · intro h
      omega

theorem daysEarlier?_eq_some_iff {d r : Day} {days : Nat} :
    d.daysEarlier? days = some r ↔ r.number = d.number - days := by
  have hreach := number_sub_number_le d r
  unfold daysEarlier?
  by_cases hshort : days ≤ longestShift
  · rw [if_pos hshort, shift?_eq_some_iff, Int.sub_eq_add_neg]
  · rw [if_neg hshort]
    constructor
    · intro h
      cases h
    · intro h
      omega

end Day

end NodeReport

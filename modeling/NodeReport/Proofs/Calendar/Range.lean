import NodeReport.Proofs.Calendar.Step

/-! # Ranges of days up to today

  A range starts at a day and ends so many days later, but at the end of the calendar or today if one
  of these comes first. Where the last day of a range lies is told by its number, also where the
  calendar has no such day:

  * `le_getD_daysLater?_iff`, `le_getD_dayBefore_iff`: the days up to the end of a range, before it is
    cut off at today;
  * `mem_days_dayRange`: the days of a range;
  * `ranges_hold_their_days`: these, together with the days of a month's window.
-/

namespace NodeReport

namespace Day

/-! ### Ends of ranges -/

/-- Where the calendar has no day so many days later, it ends before, and so does the range. -/
theorem le_getD_daysLater?_iff {start e : Day} {days : Nat} :
    e ≤ (start.daysLater? days).getD greatest ↔ e.number ≤ start.number + days := by
  cases hlater : start.daysLater? days with
  | some last =>
    have hnumber := daysLater?_eq_some_iff.mp hlater
    rw [Option.getD_some, le_def, hnumber]
  | none =>
    constructor
    · intro _
      by_cases hle : e.number ≤ start.number + days
      · exact hle
      · -- the day so many days later lies before this one, so the calendar has it
        obtain ⟨r, hr⟩ := exists_number_eq (d := start) (e := e) (n := start.number + days)
          (by omega) (by omega)
        rw [daysLater?_eq_some_iff.mpr hr] at hlater
        cases hlater
    · intro _
      exact e.le_greatest

/-- Only the first day of the calendar has no day before it. -/
theorem eq_least_of_shift? {d : Day} (h : d.shift? (-1) = none) : d = least := by
  have hleast := le_def.mp d.least_le
  by_cases hnumber : d.number = least.number
  · exact number_inj.mp hnumber
  · obtain ⟨r, hr⟩ := exists_number_eq (d := least) (e := d) (n := d.number - 1)
      (by omega) (by omega)
    rw [shift?_eq_some_iff.mpr (show r.number = d.number + -1 by omega)] at h
    cases h

/-- No day from the start on lies before the start, except that the first day of the calendar has
    itself in the place of the day before it. -/
theorem le_getD_dayBefore_iff {start e : Day} (h : start ≤ e) :
    e ≤ (start.shift? (-1)).getD start ↔ start = least ∧ e = least := by
  rw [le_def] at h
  cases hbefore : start.shift? (-1) with
  | some last =>
    have hnumber := shift?_eq_some_iff.mp hbefore
    rw [Option.getD_some, le_def]
    constructor
    · intro hle
      omega
    · intro hfirst
      -- a day before the first one of all would have a smaller number
      have hleast := le_def.mp last.least_le
      rw [hfirst.1] at hnumber
      omega
  | none =>
    have hstart := eq_least_of_shift? hbefore
    rw [Option.getD_none, hstart, le_def]
    rw [hstart] at h
    constructor
    · intro hle
      exact ⟨rfl, number_inj.mp (by omega)⟩
    · intro hfirst
      exact Int.le_of_eq (congrArg number hfirst.2)

/-! ### The days of ranges -/

/-- A range lists the days from its start to so many days later that do not lie after today. A
    negative number of days leaves none of them, except at the first day of the calendar, which then
    stands for the day before it. -/
theorem mem_days_dayRange {today start e : Day} {days : Int} :
    e ∈ (dayRange today start days).days ↔
      (start ≤ e ∧ e.number ≤ start.number + days ∧ e ≤ today) ∨
        (days < 0 ∧ start = least ∧ e = least) := by
  rw [DayWindow.mem_days]
  unfold dayRange
  simp only [le_earlier_iff]
  by_cases hdays : days < 0
  · -- the range ends on the day before its start
    rw [if_pos hdays]
    constructor
    · intro h
      exact .inr ⟨hdays, (le_getD_dayBefore_iff h.1).mp h.2.1⟩
    · intro h
      rcases h with ⟨hstart, hend, -⟩ | ⟨-, rfl, rfl⟩
      · rw [le_def] at hstart
        omega
      · have hself : least ≤ least := Int.le_refl _
        exact ⟨hself, (le_getD_dayBefore_iff hself).mpr ⟨rfl, rfl⟩, today.least_le⟩
  · -- it ends so many days later, or with the calendar
    rw [if_neg hdays, le_getD_daysLater?_iff, Int.natAbs_of_nonneg (by omega)]
    constructor
    · intro h
      exact .inl h
    · intro h
      rcases h with h | ⟨hnegative, -, -⟩
      · exact h
      · exact absurd hnegative hdays

/-- A range is empty only for a negative number of days or a start after today. -/
theorem days_dayRange_eq_nil_iff {today start : Day} {days : Int} :
    (dayRange today start days).days = [] ↔ (days < 0 ∧ start ≠ least) ∨ today < start := by
  rw [List.eq_nil_iff_forall_not_mem]
  simp only [mem_days_dayRange]
  constructor
  · intro h
    -- a range that is not empty holds its start
    have hstart := h start
    have hself : start ≤ start := Int.le_refl _
    by_cases htoday : start ≤ today
    · by_cases hdays : days < 0
      · refine .inl ⟨hdays, ?_⟩
        intro hleast
        exact hstart (.inr ⟨hdays, hleast, hleast⟩)
      · exact absurd (.inl ⟨hself, by omega, htoday⟩) hstart
    · exact .inr (Int.not_le.mp htoday)
  · intro h e he
    rcases he with ⟨hstart, hend, htoday⟩ | ⟨hdays, hleast, -⟩
    · rw [le_def] at hstart htoday
      rcases h with ⟨hdays, -⟩ | hafter
      · omega
      · have hafter' : today.number < start.number := hafter
        omega
    · rcases h with ⟨-, hne⟩ | hafter
      · exact hne hleast
      · rw [hleast] at hafter
        exact absurd today.least_le (Int.not_le.mpr hafter)

/-- The days of a range are those from its start to so many days later, and those of a month's window
    are the days of the month, as far as they do not lie after today. The calendar may end before, and
    the number of days may be anything: a negative one leaves no day, but at the first day of the
    calendar this day. -/
theorem ranges_hold_their_days (today start : Day) (days : Int) :
    (∀ e, e ∈ (dayRange today start days).days ↔
        (start ≤ e ∧ e.number ≤ start.number + days ∧ e ≤ today) ∨
          (days < 0 ∧ start = least ∧ e = least)) ∧
      ((dayRange today start days).days = [] ↔ (days < 0 ∧ start ≠ least) ∨ today < start) ∧
      ∀ e, e ∈ (monthWindow today start).days ↔ SameMonth e start ∧ e ≤ today := by
  refine ⟨?_, days_dayRange_eq_nil_iff, ?_⟩
  · intro e
    exact mem_days_dayRange
  · intro e
    exact mem_days_monthWindow

/-- At the first day of the calendar a negative number of days leaves this day, and only there. -/
example : (dayRange greatest least minInt64).days = [least] ∧
    (dayRange greatest ⟨-262143, 1, 2, by decide⟩ minInt64).days = [] := by decide +kernel

end Day

end NodeReport

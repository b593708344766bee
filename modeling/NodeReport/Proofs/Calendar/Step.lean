import NodeReport.Proofs.Calendar.Month

/-! # Steps up to today

  A step leads to the day that lies so many days away, or to the first day of the month before or
  after, provided that the calendar has this day and that it does not lie after today. What a step
  leads to is told by a number, of the day or of the month, so that steps add up and can be taken
  back.

  * `number_eq_succ_iff`: the numbers of days count the days one after another;
  * `offset?_counts_days`: steps by days;
  * `iterate?_nextMonth?_eq_some_iff`, `iterate?_previousMonth?_eq_some_iff`: several steps by months;
  * `month_steps_are_inverse`: steps by months, there and back.
-/

namespace NodeReport

namespace Day

/-! ### One day after another -/

/-- The day after a day: the next one in the month, or behind its last one the first one of the next
    month. -/
def IsNextDay (d e : Day) : Prop :=
  (SameMonth e d ∧ e.day = d.day + 1) ∨
    (d.day = monthLength d.year d.month ∧ e.day = 1 ∧ e.monthNumber = d.monthNumber + 1)

theorem IsNextDay.number_eq {d e : Day} (h : IsNextDay d e) : e.number = d.number + 1 := by
  rcases h with ⟨hsame, hday⟩ | ⟨hlast, hfirst⟩
  · have hnumber := hsame.number_eq
    omega
  · have hnext := number_eq_of_nextMonthStart? (nextMonthStart?_eq_some_iff.mpr hfirst)
    obtain ⟨hstart, hone⟩ := d.monthStart_spec
    have hnumber := hstart.number_eq
    omega

/-- Before the end of the calendar there is a day after every day. -/
theorem exists_isNextDay {d e : Day} (h : d < e) : ∃ next, IsNextDay d next := by
  have hday := d.day_bounds
  by_cases hlast : d.day = monthLength d.year d.month
  · cases hnext : d.nextMonthStart? with
    | some next => exact ⟨next, .inr ⟨hlast, nextMonthStart?_eq_some_iff.mp hnext⟩⟩
    | none =>
      -- the last day of the last month is the last day of all
      obtain ⟨hyear, hmonth⟩ := eq_lastMonth_of_nextMonthStart? hnext
      have hgreatest : d = greatest := eq_of_fields hyear hmonth (by rw [hlast, hmonth]; rfl)
      rw [hgreatest] at h
      exact absurd h (Int.not_lt.mpr e.le_greatest)
  · obtain ⟨next, hnext⟩ := d.exists_withDay? (d.day + 1) (by omega) (by omega)
    exact ⟨next, .inl (withDay?_eq_some_iff.mp hnext)⟩

/-- The numbers of days count the days one after another. -/
theorem number_eq_succ_iff {d e : Day} : e.number = d.number + 1 ↔ IsNextDay d e := by
  constructor
  · intro h
    have hlt : d.number < e.number := by omega
    obtain ⟨next, hnext⟩ := exists_isNextDay hlt
    have heq : e = next := number_inj.mp (h.trans hnext.number_eq.symm)
    rw [heq]
    exact hnext
  · exact IsNextDay.number_eq

/-! ### Steps by days -/

theorem offset?_eq_some_iff {today d r : Day} {days : Int} :
    offset? today d days = some r ↔ r.number = d.number + days ∧ r ≤ today := by
  unfold offset?
  simp only
  rw [Option.filter_eq_some_iff, decide_eq_true_iff]
  by_cases hdays : 0 ≤ days
  · rw [if_pos hdays, daysLater?_eq_some_iff, Int.natAbs_of_nonneg hdays]
  · have habs : d.number - (days.natAbs : Int) = d.number + days := by omega
    rw [if_neg hdays, daysEarlier?_eq_some_iff, habs]

/-- A step by any number of days leads to the day with that number more, if there is one up to today,
    where the numbers count the days of the calendar one after another; two steps are as good as
    one. -/
theorem offset?_counts_days (today d : Day) (days : Int) :
    (∀ r, offset? today d days = some r ↔ r.number = d.number + days ∧ r ≤ today) ∧
      (∀ e, e.number = d.number + 1 ↔ IsNextDay d e) ∧
      ∀ m more, offset? today d days = some m →
        offset? today m more = offset? today d (days + more) := by
  refine ⟨fun r => offset?_eq_some_iff, fun e => number_eq_succ_iff, ?_⟩
  intro m more h
  have hnumber := (offset?_eq_some_iff.mp h).1
  apply Option.ext
  intro r
  rw [offset?_eq_some_iff, offset?_eq_some_iff, hnumber, Int.add_assoc]

/-- Across the whole calendar and back again, and as far back as an integer of 64 bits goes. -/
theorem offset?_counts_days_wholeCalendar :
    offset? greatest least 191491528 = some greatest ∧
      offset? greatest greatest (-191491528) = some least ∧
      offset? greatest greatest minInt64 = none := by
  have hacross : offset? greatest least 191491528 = some greatest := by decide
  obtain ⟨-, -, hback⟩ := offset?_counts_days greatest least 191491528
  refine ⟨hacross, ?_, by decide⟩
  rw [hback greatest (-191491528) hacross]
  decide

/-! ### Steps by months -/

theorem nextMonth?_eq_some_iff {today d f : Day} :
    nextMonth? today d = some f ↔
      (f.day = 1 ∧ f.monthNumber = d.monthNumber + 1) ∧ f ≤ today := by
  unfold nextMonth?
  rw [Option.filter_eq_some_iff, nextMonthStart?_eq_some_iff, decide_eq_true_iff]

theorem previousMonth?_eq_some_iff {today d p : Day} :
    previousMonth? today d = some p ↔
      (p.day = 1 ∧ p.monthNumber = d.monthNumber - 1) ∧ p ≤ today := by
  unfold previousMonth?
  rw [Option.filter_eq_some_iff, previousMonthStart?_eq_some_iff, decide_eq_true_iff]

/-- The days of the next month lie later. -/
theorem lt_of_monthNumber_eq_succ {a b : Day} (h : b.monthNumber = a.monthNumber + 1) :
    a.number < b.number :=
  number_lt_of_monthNumber_lt (by omega)

/-- A step to the next month is taken back by one to the month before. -/
theorem previousMonth?_of_nextMonth? {today d f : Day} (h : nextMonth? today d = some f) :
    previousMonth? today f = some d.monthStart := by
  obtain ⟨⟨-, hnumber⟩, htoday⟩ := nextMonth?_eq_some_iff.mp h
  have hstart := d.monthNumber_monthStart
  have hlt : d.monthStart.number < f.number := lt_of_monthNumber_eq_succ (by omega)
  rw [le_def] at htoday
  exact previousMonth?_eq_some_iff.mpr
    ⟨⟨d.monthStart_spec.2, by omega⟩, le_def.mpr (by omega)⟩

/-- A step to the month before is taken back by one to the next month, if this one has begun. -/
theorem nextMonth?_of_previousMonth? {today d p : Day} (h : previousMonth? today d = some p)
    (hbegun : d.monthStart ≤ today) : nextMonth? today p = some d.monthStart := by
  obtain ⟨⟨-, hnumber⟩, -⟩ := previousMonth?_eq_some_iff.mp h
  have hstart := d.monthNumber_monthStart
  exact nextMonth?_eq_some_iff.mpr ⟨⟨d.monthStart_spec.2, by omega⟩, hbegun⟩

/-! ### Several steps -/

/-- So many steps one after another, if none of them fails. -/
def iterate? (step : Day → Option Day) : Nat → Day → Option Day
  | 0, d => some d
  | count + 1, d => (step d).bind (iterate? step count)

theorem iterate?_one (step : Day → Option Day) (d : Day) : iterate? step 1 d = step d :=
  Option.bind_fun_some (step d)

theorem iterate?_succ_eq_some_iff {step : Day → Option Day} {count : Nat} {d r : Day} :
    iterate? step (count + 1) d = some r ↔ ∃ m, step d = some m ∧ iterate? step count m = some r := by
  rw [iterate?, Option.bind_eq_some_iff]

/-- Steps to the next month lead as many months on, as long as these have begun. -/
theorem iterate?_nextMonth?_eq_some_iff {today f : Day} (count : Nat) {d : Day} :
    iterate? (nextMonth? today) (count + 1) d = some f ↔
      (f.day = 1 ∧ f.monthNumber = d.monthNumber + (count + 1)) ∧ f ≤ today := by
  induction count generalizing d with
  | zero =>
    rw [iterate?_one, nextMonth?_eq_some_iff]
    simp
  | succ count ih =>
    rw [iterate?_succ_eq_some_iff]
    simp only [ih, nextMonth?_eq_some_iff]
    push_cast
    constructor
    · rintro ⟨m, ⟨⟨-, hm⟩, -⟩, ⟨hday, hnumber⟩, htoday⟩
      exact ⟨⟨hday, by omega⟩, htoday⟩
    · rintro ⟨⟨hday, hnumber⟩, htoday⟩
      -- the calendar has the month between, and it has begun because the later one has
      have hd := d.monthNumber_bounds
      have hf := f.monthNumber_bounds
      obtain ⟨m, hmday, hm⟩ :=
        exists_of_monthNumber (k := d.monthNumber + 1) (by omega) (by omega)
      have hlt : m.number < f.number := number_lt_of_monthNumber_lt (by omega)
      rw [le_def] at htoday
      exact ⟨m, ⟨⟨hmday, hm⟩, le_def.mpr (by omega)⟩, ⟨hday, by omega⟩, htoday⟩

/-- Steps to the month before lead as many months back, as soon as the first one is possible. -/
theorem iterate?_previousMonth?_eq_some_iff {today p : Day} (count : Nat) {d : Day} :
    iterate? (previousMonth? today) (count + 1) d = some p ↔
      (p.day = 1 ∧ p.monthNumber = d.monthNumber - (count + 1)) ∧
        ∃ m, previousMonth? today d = some m := by
  induction count generalizing d with
  | zero =>
    rw [iterate?_one]
    constructor
    · intro h
      obtain ⟨⟨hday, hnumber⟩, -⟩ := previousMonth?_eq_some_iff.mp h
      exact ⟨⟨hday, by simpa using hnumber⟩, p, h⟩
    · rintro ⟨⟨hday, hnumber⟩, m, hm⟩
      obtain ⟨⟨hmday, hmnumber⟩, -⟩ := previousMonth?_eq_some_iff.mp hm
      have hsame : p = m := eq_of_monthNumber (by omega) (hday.trans hmday.symm)
      rw [hsame]
      exact hm
  | succ count ih =>
    rw [iterate?_succ_eq_some_iff]
    simp only [ih]
    push_cast
    constructor
    · rintro ⟨m, hm, ⟨hday, hnumber⟩, -⟩
      obtain ⟨⟨-, hmnumber⟩, -⟩ := previousMonth?_eq_some_iff.mp hm
      exact ⟨⟨hday, by omega⟩, m, hm⟩
    · rintro ⟨⟨hday, hnumber⟩, m, hm⟩
      obtain ⟨⟨-, hmnumber⟩, htoday⟩ := previousMonth?_eq_some_iff.mp hm
      -- the calendar has the month before that one too, and it has begun before it
      have hmbounds := m.monthNumber_bounds
      have hp := p.monthNumber_bounds
      obtain ⟨l, hlday, hl⟩ :=
        exists_of_monthNumber (k := m.monthNumber - 1) (by omega) (by omega)
      have hlt : l.number < m.number := lt_of_monthNumber_eq_succ (by omega)
      rw [le_def] at htoday
      have hnext : previousMonth? today m = some l :=
        previousMonth?_eq_some_iff.mpr ⟨⟨hlday, hl⟩, le_def.mpr (by omega)⟩
      exact ⟨m, hm, ⟨hday, by omega⟩, l, hnext⟩

/-- A step to the month after or before leads to the first day of this very month, if the calendar
    has one and it does not lie after today. The two take each other back, and several of them leave
    out no month and come to none twice. -/
theorem month_steps_are_inverse (today d : Day) :
    (∀ f, nextMonth? today d = some f ↔
        (f.day = 1 ∧ f.monthNumber = d.monthNumber + 1) ∧ f ≤ today) ∧
      (∀ p, previousMonth? today d = some p ↔
        (p.day = 1 ∧ p.monthNumber = d.monthNumber - 1) ∧ p ≤ today) ∧
      (∀ f, nextMonth? today d = some f → previousMonth? today f = some d.monthStart) ∧
      (∀ p, previousMonth? today d = some p → d.monthStart ≤ today →
        nextMonth? today p = some d.monthStart) ∧
      ∀ count : Nat,
        (∀ f, iterate? (nextMonth? today) (count + 1) d = some f ↔
          (f.day = 1 ∧ f.monthNumber = d.monthNumber + (count + 1)) ∧ f ≤ today) ∧
        ∀ p, iterate? (previousMonth? today) (count + 1) d = some p ↔
          (p.day = 1 ∧ p.monthNumber = d.monthNumber - (count + 1)) ∧
            ∃ m, previousMonth? today d = some m := by
  refine ⟨fun f => nextMonth?_eq_some_iff, fun p => previousMonth?_eq_some_iff, ?_, ?_, ?_⟩
  · intro f h
    exact previousMonth?_of_nextMonth? h
  · intro p h hbegun
    exact nextMonth?_of_previousMonth? h hbegun
  · intro count
    exact ⟨fun f => iterate?_nextMonth?_eq_some_iff count,
      fun p => iterate?_previousMonth?_eq_some_iff count⟩

/-- From December to January and back, and from January to December and back. -/
theorem month_steps_are_inverse_turnOfYear :
    nextMonth? ⟨2024, 2, 29, by decide⟩ ⟨2023, 12, 31, by decide⟩ = some ⟨2024, 1, 1, by decide⟩ ∧
      previousMonth? ⟨2024, 2, 29, by decide⟩ ⟨2024, 1, 1, by decide⟩ =
        some (⟨2023, 12, 31, by decide⟩ : Day).monthStart ∧
      previousMonth? ⟨2024, 2, 29, by decide⟩ ⟨2024, 1, 31, by decide⟩ =
        some ⟨2023, 12, 1, by decide⟩ ∧
      (⟨2024, 1, 31, by decide⟩ : Day).monthStart ≤ ⟨2024, 2, 29, by decide⟩ ∧
      nextMonth? ⟨2024, 2, 29, by decide⟩ ⟨2023, 12, 1, by decide⟩ =
        some (⟨2024, 1, 31, by decide⟩ : Day).monthStart := by
  have hnext : nextMonth? ⟨2024, 2, 29, by decide⟩ ⟨2023, 12, 31, by decide⟩ =
      some ⟨2024, 1, 1, by decide⟩ := by decide
  have hprevious : previousMonth? ⟨2024, 2, 29, by decide⟩ ⟨2024, 1, 31, by decide⟩ =
      some ⟨2023, 12, 1, by decide⟩ := by decide
  have hbegun : (⟨2024, 1, 31, by decide⟩ : Day).monthStart ≤ ⟨2024, 2, 29, by decide⟩ := by decide
  obtain ⟨-, -, hback, -, -⟩ :=
    month_steps_are_inverse ⟨2024, 2, 29, by decide⟩ ⟨2023, 12, 31, by decide⟩
  obtain ⟨-, -, -, hon, -⟩ :=
    month_steps_are_inverse ⟨2024, 2, 29, by decide⟩ ⟨2024, 1, 31, by decide⟩
  exact ⟨hnext, hback _ hnext, hprevious, hbegun, hon _ hprevious hbegun⟩

/-- At its two ends the calendar has no further month. -/
example : nextMonth? greatest greatest = none ∧ previousMonth? greatest least = none := by decide

end Day

end NodeReport

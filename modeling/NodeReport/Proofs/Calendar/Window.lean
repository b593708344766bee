import NodeReport.Calendar.Window

/-! # The days of a window

  An iteration goes from a day to the next one until its last day has been passed, or the calendar
  has no further day. It ends whatever its bounds are, and the days that it comes to are those
  between the bounds, counted on from the first one:

  * `DayIterator.yields_iff`: an iteration ends, and it can yield nothing but its list of days;
  * `DayIterator.map_number_toList`: the numbers of these days;
  * `DayWindow.map_number_days`, `DayWindow.mem_days`, `DayWindow.pairwise_days`: the days of a window;
  * `DayWindow.iteration_lists_days`: these together.
-/

namespace NodeReport

namespace DayIterator

variable {it : DayIterator}

/-! ### One step -/

theorem step?_eq_none_iff : it.step? = none ↔ ∀ d, it.next = some d → it.last < d := by
  unfold step?
  rw [Option.map_eq_none_iff, Option.filter_eq_none_iff]
  constructor
  · intro h d hd
    exact Int.not_le.mp fun hle => h d hd (decide_eq_true hle)
  · intro h d hd hle
    exact absurd (of_decide_eq_true hle) (Int.not_le.mpr (h d hd))

theorem step?_of_le {first last : Day} (h : first ≤ last) :
    step? ⟨some first, last⟩ = some (first, ⟨first.shift? 1, last⟩) :=
  step?_eq_some_iff.mpr ⟨rfl, h, rfl⟩

theorem toList_of_step? {rest : DayIterator} {d : Day} (h : it.step? = some (d, rest)) :
    it.toList = d :: rest.toList := by
  rw [toList]
  split
  · rename_i heq
    rw [h] at heq
    cases heq
    rfl
  · rename_i heq
    rw [h] at heq
    cases heq

theorem toList_of_step?_eq_none (h : it.step? = none) : it.toList = [] := by
  rw [toList]
  split
  · rename_i heq
    rw [h] at heq
    cases heq
  · rfl

/-- The next days are the first ones of the list. -/
theorem take_eq (it : DayIterator) (count : Nat) : it.take count = it.toList.take count := by
  induction count generalizing it with
  | zero => rfl
  | succ count ih =>
    rw [take]
    cases h : it.step? with
    | some taken =>
      rw [toList_of_step? h, List.take_succ_cons]
      exact congrArg (taken.1 :: ·) (ih taken.2)
    | none =>
      rw [toList_of_step?_eq_none h]
      rfl

/-! ### Whole iterations -/

/-- From step to step an iteration yields some days, and then stands where another one starts. -/
inductive Yields : DayIterator → List Day → DayIterator → Prop where
  /-- Before the first step nothing has been yielded. -/
  | start (it : DayIterator) : Yields it [] it
  /-- A step yields one day more. -/
  | step {it mid rest : DayIterator} {d : Day} {days : List Day} (hstep : it.step? = some (d, mid))
      (hdays : Yields mid days rest) : Yields it (d :: days) rest

/-- An iteration yields its list of days, and then it has ended. -/
theorem yields_toList (it : DayIterator) : ∃ rest, it.Yields it.toList rest ∧ rest.step? = none := by
  induction it using toList.induct with
  | case1 it d mid hstep ih =>
    obtain ⟨rest, hdays, hend⟩ := ih
    rw [toList_of_step? hstep]
    exact ⟨rest, .step hstep hdays, hend⟩
  | case2 it hend =>
    rw [toList_of_step?_eq_none hend]
    exact ⟨it, .start it, hend⟩

theorem Yields.toList_eq {rest : DayIterator} {days : List Day} (h : it.Yields days rest) :
    it.toList = days ++ rest.toList := by
  induction h with
  | start it => rfl
  | step hstep _ ih => rw [toList_of_step? hstep, ih, List.cons_append]

/-- An iteration comes to its end, and on the way there it yields its list of days. -/
theorem yields_iff {days : List Day} :
    (∃ rest, it.Yields days rest ∧ rest.step? = none) ↔ days = it.toList := by
  constructor
  · rintro ⟨rest, hdays, hend⟩
    rw [hdays.toList_eq, toList_of_step?_eq_none hend, List.append_nil]
  · rintro rfl
    exact it.yields_toList

/-! ### The days of an iteration -/

/-- The days are counted on from the next one, as many as there are up to the last one. Where the
    calendar has no further day, the last one has been reached. -/
theorem map_number_toList (first last : Day) :
    (toList ⟨some first, last⟩).map Day.number =
      (List.range (last.number + 1 - first.number).toNat).map fun i : Nat => first.number + i := by
  -- by the days that are left; a step moves the first of them
  generalize hcount : (last.number + 1 - first.number).toNat = count
  induction count generalizing first with
  | zero =>
    have hend : step? ⟨some first, last⟩ = none := by
      rw [step?_eq_none_iff]
      rintro d ⟨⟩
      show last.number < first.number
      omega
    rw [toList_of_step?_eq_none hend]
    rfl
  | succ count ih =>
    have hle : first ≤ last := Day.le_def.mpr (by omega)
    rw [toList_of_step? (step?_of_le hle), List.map_cons, List.range_succ_eq_map, List.map_cons,
      List.map_map]
    congr 1
    · simp
    · cases hshift : first.shift? 1 with
      | some next =>
        have hnumber := Day.shift?_eq_some_iff.mp hshift
        show (toList ⟨some next, last⟩).map Day.number = _
        rw [ih next (by omega)]
        refine List.map_congr_left fun i _ => ?_
        simp only [Function.comp_apply]
        omega
      | none =>
        -- if there were further days to come, the calendar would have the next one
        have hlast : count = 0 := by
          by_cases hzero : count = 0
          · exact hzero
          · obtain ⟨next, hnext⟩ := Day.exists_number_eq (d := first) (e := last)
              (n := first.number + 1) (by omega) (by omega)
            rw [Day.shift?_eq_some_iff.mpr hnext] at hshift
            cases hshift
        have hend : step? ⟨none, last⟩ = none := by
          rw [step?_eq_none_iff]
          rintro d ⟨⟩
        rw [hlast, toList_of_step?_eq_none hend]
        rfl

end DayIterator

namespace DayWindow

/-! ### The days of a window -/

theorem isEmpty_iff {w : DayWindow} : w.isEmpty = true ↔ w.last < w.first :=
  decide_eq_true_iff

theorem size_eq (w : DayWindow) : w.size = (w.last.number + 1 - w.first.number).toNat := by
  unfold size
  by_cases h : w.isEmpty = true
  · have hlt : w.last.number < w.first.number := isEmpty_iff.mp h
    rw [if_pos h]
    omega
  · have hle : ¬ w.last.number < w.first.number := fun hlt => h (isEmpty_iff.mpr hlt)
    rw [if_neg h]
    omega

/-- The days of a window are counted on from its start, as many as its size says. -/
theorem map_number_days (w : DayWindow) :
    w.days.map Day.number = (List.range w.size).map fun i : Nat => w.first.number + i := by
  rw [size_eq]
  exact DayIterator.map_number_toList w.first w.last

theorem length_days (w : DayWindow) : w.days.length = w.size := by
  rw [← List.length_map (f := Day.number), map_number_days, List.length_map, List.length_range]

/-- A window lists the days between its ends. -/
theorem mem_days {w : DayWindow} {d : Day} : d ∈ w.days ↔ w.first ≤ d ∧ d ≤ w.last := by
  -- a day is known by its number
  have hnumber : d ∈ w.days ↔ d.number ∈ w.days.map Day.number := by
    constructor
    · exact List.mem_map_of_mem
    · intro h
      obtain ⟨e, he, heq⟩ := List.mem_map.mp h
      rw [← Day.number_inj.mp heq]
      exact he
  rw [hnumber, map_number_days, size_eq, List.mem_map, Day.le_def, Day.le_def]
  constructor
  · rintro ⟨i, hi, heq⟩
    rw [List.mem_range] at hi
    omega
  · rintro ⟨hfirst, hlast⟩
    exact ⟨(d.number - w.first.number).toNat, List.mem_range.mpr (by omega), by omega⟩

/-- A window lists its days in order. -/
theorem pairwise_days (w : DayWindow) : w.days.Pairwise (· < ·) := by
  have hnumbers : (w.days.map Day.number).Pairwise (· < ·) := by
    rw [map_number_days, List.pairwise_map]
    refine List.pairwise_lt_range.imp ?_
    intro i j hij
    omega
  rw [List.pairwise_map] at hnumbers
  exact hnumbers

/-- The first days of a window are those that it lists first. -/
theorem firstDays_eq (w : DayWindow) (count : Nat) : w.firstDays count = w.days.take count :=
  w.iterator.take_eq count

/-- Iterating over a window ends, whatever its bounds are, and yields the days between them, one
    after another and in order. There are as many of them as the size of the window says, so none
    exactly if it is empty. -/
theorem iteration_lists_days (w : DayWindow) :
    (∀ days, (∃ rest, w.iterator.Yields days rest ∧ rest.step? = none) ↔ days = w.days) ∧
      (∀ d, d ∈ w.days ↔ w.first ≤ d ∧ d ≤ w.last) ∧
      w.days.Pairwise (· < ·) ∧
      w.days.map Day.number = (List.range w.size).map (fun i : Nat => w.first.number + i) ∧
      w.days.length = w.size ∧ (w.days.length = 0 ↔ w.isEmpty = true) ∧
      w.labels = w.days.map Day.text := by
  refine ⟨fun days => DayIterator.yields_iff, fun d => mem_days, w.pairwise_days,
    w.map_number_days, w.length_days, ?_, rfl⟩
  rw [length_days, size_eq, isEmpty_iff]
  show _ ↔ w.last.number < w.first.number
  omega

/-- The last day of the calendar is listed, and nothing comes after it. -/
example : (⟨⟨262142, 12, 30, by decide⟩, Day.greatest⟩ : DayWindow).days =
    [⟨262142, 12, 30, by decide⟩, Day.greatest] := by decide +kernel

end DayWindow

end NodeReport

import NodeReport.Calendar.DayText
import NodeReport.Calendar.Month
import NodeReport.Proofs.Calendar.Day

/-! # Windows of days

  Runs of consecutive days, and steps through the calendar that never go past today. The days of a
  run are found one from another, until the last one has been passed or the calendar ends.
-/

namespace NodeReport

/-! ### Iteration -/

/-- An iteration over consecutive days, as far as it has come. -/
structure DayIterator where
  /-- The day that comes next, if the calendar has it. -/
  next : Option Day
  /-- The day after which the iteration ends. -/
  last : Day
deriving DecidableEq

namespace DayIterator

/-- The next day with what follows it, unless the last day has been passed. -/
def step? (it : DayIterator) : Option (Day × DayIterator) :=
  (it.next.filter fun d => decide (d ≤ it.last)).map fun d => (d, ⟨d.shift? 1, it.last⟩)

/-- How many days there are from the next one to the last one. -/
def remaining (it : DayIterator) : Nat :=
  match it.next with
  | some d => (it.last.number + 1 - d.number).toNat
  | none => 0

theorem step?_eq_some_iff {it rest : DayIterator} {d : Day} :
    it.step? = some (d, rest) ↔
      it.next = some d ∧ d ≤ it.last ∧ rest = ⟨d.shift? 1, it.last⟩ := by
  unfold step?
  simp only [Option.map_eq_some_iff, Option.filter_eq_some_iff, decide_eq_true_iff, Prod.mk.injEq]
  constructor
  · rintro ⟨e, ⟨hnext, hle⟩, rfl, rfl⟩
    exact ⟨hnext, hle, rfl⟩
  · rintro ⟨hnext, hle, rfl⟩
    exact ⟨d, ⟨hnext, hle⟩, rfl, rfl⟩

/-- A step leaves fewer days. -/
theorem remaining_lt_of_step? {it rest : DayIterator} {d : Day} (h : it.step? = some (d, rest)) :
    rest.remaining < it.remaining := by
  obtain ⟨hnext, hle, rfl⟩ := step?_eq_some_iff.mp h
  rw [Day.le_def] at hle
  unfold remaining
  rw [hnext]
  cases hshift : d.shift? 1 with
  | none =>
    simp only
    omega
  | some e =>
    have hnumber := Day.shift?_eq_some_iff.mp hshift
    simp only
    omega

/-- The days that an iteration still comes to. -/
def toList (it : DayIterator) : List Day :=
  match _hstep : it.step? with
  | some (d, rest) => d :: rest.toList
  | none => []
termination_by it.remaining
decreasing_by exact remaining_lt_of_step? _hstep

/-- The next days of an iteration, at most `count` of them. -/
def take (it : DayIterator) : Nat → List Day
  | 0 => []
  | count + 1 =>
    match it.step? with
    | some (d, rest) => d :: rest.take count
    | none => []

end DayIterator

/-! ### Windows -/

/-- The days from `first` to `last`, both included; none if `last` lies before `first`. -/
structure DayWindow where
  /-- Where the run starts. -/
  first : Day
  /-- Where the run ends. -/
  last : Day
deriving DecidableEq

namespace DayWindow

/-- Whether the window holds no day. -/
def isEmpty (w : DayWindow) : Bool :=
  decide (w.last < w.first)

/-- Number of days of the window. -/
def size (w : DayWindow) : Nat :=
  if w.isEmpty then 0 else (w.last.number - w.first.number).toNat + 1

/-- An iteration over the window. -/
def iterator (w : DayWindow) : DayIterator :=
  ⟨some w.first, w.last⟩

/-- The days of the window, in order. -/
def days (w : DayWindow) : List Day :=
  w.iterator.toList

/-- The first days of the window, at most `count` of them. -/
def firstDays (w : DayWindow) (count : Nat) : List Day :=
  w.iterator.take count

/-- The texts of the days of the window. -/
def labels (w : DayWindow) : List String :=
  w.days.map Day.text

end DayWindow

/-! ### Steps up to today -/

namespace Day

/-- The day so many days later or earlier, unless it lies after today. -/
def offset? (today d : Day) (days : Int) : Option Day :=
  let shifted := if 0 ≤ days then d.daysLater? days.natAbs else d.daysEarlier? days.natAbs
  shifted.filter fun r => decide (r ≤ today)

/-- `offset?` on the text of a day. -/
def offsetText? (today : Day) (text : String) (days : Int) : Except TextError (Option String) :=
  (parse text).map fun d => (offset? today d days).map Day.text

/-- The days from `start` to so many days later, up to today; none for a negative number. -/
def dayRange (today start : Day) (days : Int) : DayWindow :=
  let last :=
    if days < 0 then (start.shift? (-1)).getD start
    else (start.daysLater? days.natAbs).getD Day.greatest
  ⟨start, last.earlier today⟩

/-- The days of a day's month, up to today. -/
def monthWindow (today d : Day) : DayWindow :=
  dayRange today d.monthStart ((d.daysInMonth : Int) - 1)

/-- First day of the month before a day's month, unless it lies after today. -/
def previousMonth? (today d : Day) : Option Day :=
  d.previousMonthStart?.filter fun r => decide (r ≤ today)

/-- First day of the month after a day's month, unless it lies after today. -/
def nextMonth? (today d : Day) : Option Day :=
  d.nextMonthStart?.filter fun r => decide (r ≤ today)

end Day

end NodeReport

import NodeReport.Calendar.Day

/-! # Months

  First and last day of a day's month, and the months next to it. How long a month is follows from
  where the next one starts; only the last month of the calendar has no next one.
-/

namespace NodeReport

namespace Day

/-- The day with this number in a day's month. -/
def withDay? (d : Day) (day : Nat) : Option Day :=
  ofFields? d.year d.month day

/-- The day so many months later, or earlier for a negative number; if the month there is too short,
    its last day. -/
def addMonths? (d : Day) (months : Int) : Option Day :=
  let count := 12 * d.year + ((d.month : Int) - 1) + months
  let year := count / 12
  let month := (count % 12).toNat + 1
  ofFields? year month (min d.day (monthLength year month))

/-- First day of a day's month. -/
def monthStart (d : Day) : Day :=
  (d.withDay? 1).getD d

/-- First day of the month after a day's month. -/
def nextMonthStart? (d : Day) : Option Day :=
  d.monthStart.addMonths? 1

/-- First day of the month before a day's month. -/
def previousMonthStart? (d : Day) : Option Day :=
  d.monthStart.addMonths? (-1)

/-- Number of days of a day's month: what the day before the next month is called. -/
def daysInMonth (d : Day) : Nat :=
  match d.nextMonthStart?.bind fun next => next.shift? (-1) with
  | some last => last.day
  | none => 31

/-- Last day of a day's month. -/
def monthEnd (d : Day) : Day :=
  (d.withDay? d.daysInMonth).getD d

end Day

end NodeReport

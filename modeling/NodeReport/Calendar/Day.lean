/-! # Days

  Days of the proleptic Gregorian calendar, from the first day of the year -262143 to the last day
  of the year 262142. Each has a number, which counts days from the first day of the year 1, and
  days are ordered by it.
-/

namespace NodeReport

/-! ### Years and months -/

/-- Every fourth year has a leap day, but of the full centuries only every fourth. -/
def isLeapYear (year : Int) : Bool :=
  year % 4 == 0 && (year % 100 != 0 || year % 400 == 0)

/-- Number of days of a month. -/
def monthLength (year : Int) (month : Nat) : Nat :=
  if month = 2 then if isLeapYear year then 29 else 28
  else if month = 4 ∨ month = 6 ∨ month = 9 ∨ month = 11 then 30
  else 31

/-- First year of the calendar. -/
def firstYear : Int := -262143

/-- Last year of the calendar. -/
def lastYear : Int := 262142

/-- Whether a year, a month and a day of the month name a day of the calendar. -/
def IsDate (year : Int) (month day : Nat) : Prop :=
  firstYear ≤ year ∧ year ≤ lastYear ∧ 1 ≤ month ∧ month ≤ 12 ∧
    1 ≤ day ∧ day ≤ monthLength year month

instance (year : Int) (month day : Nat) : Decidable (IsDate year month day) :=
  inferInstanceAs (Decidable (_ ∧ _))

/-- Number of days from the first day of the year 1 to the first day of a year. -/
def daysBeforeYear (year : Int) : Int :=
  let past := year - 1
  365 * past + past / 4 - past / 100 + past / 400

/-- Number of days of a year before the first day of a month. -/
def daysBeforeMonth (year : Int) : Nat → Nat
  | 0 => 0
  | 1 => 0
  | m + 2 => daysBeforeMonth year (m + 1) + monthLength year (m + 1)

/-! ### Days -/

/-- A day of the calendar. -/
structure Day where
  /-- The year; the year before 1 is 0. -/
  year : Int
  /-- The month, from 1 to 12. -/
  month : Nat
  /-- The day of the month, from 1. -/
  day : Nat
  /-- The three name a day of the calendar. -/
  valid : IsDate year month day
deriving DecidableEq

namespace Day

/-- The day with this year, month and day of the month. -/
def ofFields? (year : Int) (month day : Nat) : Option Day :=
  if h : IsDate year month day then some ⟨year, month, day, h⟩ else none

/-- First day of the calendar. -/
def least : Day := ⟨firstYear, 1, 1, by decide⟩

/-- Last day of the calendar. -/
def greatest : Day := ⟨lastYear, 12, 31, by decide⟩

instance : Inhabited Day := ⟨least⟩

/-- The number of a day; the first day of the year 1 has the number 0. -/
def number (d : Day) : Int :=
  daysBeforeYear d.year + daysBeforeMonth d.year d.month + (d.day - 1 : Int)

instance : LE Day := ⟨fun a b => a.number ≤ b.number⟩

instance : LT Day := ⟨fun a b => a.number < b.number⟩

instance (a b : Day) : Decidable (a ≤ b) :=
  inferInstanceAs (Decidable (a.number ≤ b.number))

instance (a b : Day) : Decidable (a < b) :=
  inferInstanceAs (Decidable (a.number < b.number))

/-! ### Days by number -/

/-- The year that holds the day with this number. -/
def yearOfNumber (n : Int) : Int :=
  let guess := 400 * n / 146097 + 1
  if n < daysBeforeYear guess then guess - 1
  else if daysBeforeYear (guess + 1) ≤ n then guess + 1
  else guess

/-- Month and day of the month of the day with `before` days of its year before it; the months
    up to the given one are tried, from the last. -/
def monthAndDay (year : Int) (before : Nat) : Nat → Nat × Nat
  | 0 => (1, before + 1)
  | m + 1 =>
    if daysBeforeMonth year (m + 1) ≤ before then
      (m + 1, before - daysBeforeMonth year (m + 1) + 1)
    else monthAndDay year before m

/-- The day with this number, if the calendar reaches it. -/
def ofNumber? (n : Int) : Option Day :=
  let year := yearOfNumber n
  let (month, day) := monthAndDay year (n - daysBeforeYear year).toNat 12
  ofFields? year month day

/-- The day that lies so many days later, or earlier for a negative number. -/
def shift? (d : Day) (days : Int) : Option Day :=
  ofNumber? (d.number + days)

/-- The most days that are counted on or back at once. -/
def longestShift : Nat := 2147483647

/-- The day that lies so many days later. -/
def daysLater? (d : Day) (days : Nat) : Option Day :=
  if days ≤ longestShift then d.shift? days else none

/-- The day that lies so many days earlier. -/
def daysEarlier? (d : Day) (days : Nat) : Option Day :=
  if days ≤ longestShift then d.shift? (-days) else none

/-- The earlier one of two days. -/
def earlier (a b : Day) : Day :=
  if a ≤ b then a else b

end Day

end NodeReport

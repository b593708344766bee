import NodeReport.Calendar.DayText

/-! # Instants

  A point in time is a count of seconds from the start of the year 1970, in universal time.
-/

namespace NodeReport

/-- Seconds from the start of 1970. -/
abbrev Instant := Int

namespace Instant

/-- Number of the first day of 1970. -/
def epochNumber : Int := daysBeforeYear 1970

/-- The day of an instant, if the calendar reaches it. -/
def day? (t : Instant) : Option Day :=
  Day.ofNumber? (epochNumber + t / 86400)

/-- The short names of the months. -/
def monthNames : List String :=
  ["Jan", "Feb", "Mar", "Apr", "May", "Jun", "Jul", "Aug", "Sep", "Oct", "Nov", "Dec"]

/-- The text of an instant, such as `2024 Jan 05 06:07:08`. -/
def text? (t : Instant) : Option String :=
  (day? t).map fun d =>
    let seconds := (t % 86400).toNat
    let two (n : Nat) : String := String.ofList (paddedDigits 2 n)
    String.ofList (Day.yearText d.year) ++ " " ++ monthNames.getD (d.month - 1) "" ++ " "
      ++ two d.day ++ " " ++ two (seconds / 3600) ++ ":" ++ two (seconds / 60 % 60) ++ ":"
      ++ two (seconds % 60)

end Instant

end NodeReport

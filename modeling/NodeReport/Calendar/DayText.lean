import NodeReport.Calendar.Day
import NodeReport.Number.Decimal
import NodeReport.Number.Reading
import NodeReport.Text.Basic
import NodeReport.Text.Quoted

/-! # Texts of days

  Days are written `YYYY-MM-DD`; a year outside of 0 to 9999 has a sign and at least four digits.
  There are two readers: a strict one for that form, and a lenient one that picks a date out of a
  request parameter.
-/

namespace NodeReport

namespace Day

/-! ### Writing -/

/-- A year with at least four digits, and a sign outside of 0 to 9999. -/
def yearText (year : Int) : List Char :=
  let digits := paddedDigits 4 year.natAbs
  if year < 0 then '-' :: digits
  else if 9999 < year then '+' :: digits
  else digits

/-- The characters of a day's text. -/
def chars (d : Day) : List Char :=
  yearText d.year ++ '-' :: paddedDigits 2 d.month ++ '-' :: paddedDigits 2 d.day

/-- The text of a day, `YYYY-MM-DD`. -/
def text (d : Day) : String :=
  String.ofList d.chars

/-- The text of a day's month, `YYYY-MM`. -/
def monthText (d : Day) : String :=
  String.ofList (yearText d.year ++ '-' :: paddedDigits 2 d.month)

/-! ### Reading -/

/-- Why a text is no day. -/
inductive TextError where
  /-- The text does not have the form of a date, or names no day of the calendar. -/
  | invalid (text : String)
deriving DecidableEq, Repr

/-- The wording of an error. -/
def TextError.message : TextError → String
  | .invalid text => "invalid date " ++ Text.quoted text ++ "; expected YYYY-MM-DD"

/-- A number of up to `limit` digits at the start, and what follows it. -/
def scanDigits? (limit : Nat) (cs : List Char) : Option (Nat × List Char) :=
  let digits := (cs.take limit).takeWhile Char.isDigit
  if digits.isEmpty then none else some (digitsValue digits, cs.drop digits.length)

/-- A run of digits at the start, however long, and what follows it. -/
def scanRun? (cs : List Char) : Option (Nat × List Char) :=
  scanDigits? cs.length cs

/-- A hyphen at the start, and what follows it. -/
def scanHyphen? : List Char → Option (List Char)
  | '-' :: rest => some rest
  | _ => none

/-- A year at the start: four digits at most, or any number of them after a sign. -/
def scanYear? : List Char → Option (Int × List Char)
  | '-' :: rest => (scanRun? rest).map fun (n, rest) => (-(n : Int), rest)
  | '+' :: rest => (scanRun? rest).map fun (n, rest) => ((n : Int), rest)
  | cs => (scanDigits? 4 cs).map fun (n, rest) => ((n : Int), rest)

/-- Reads the form `YYYY-MM-DD`, with blanks allowed before each number. -/
def readStrict? (cs : List Char) : Option Day := do
  let (year, rest) ← scanYear? (Text.trimStart cs)
  let rest ← scanHyphen? rest
  let (month, rest) ← scanDigits? 2 (Text.trimStart rest)
  let rest ← scanHyphen? rest
  let (day, rest) ← scanDigits? 2 (Text.trimStart rest)
  if rest.isEmpty then ofFields? year month day else none

/-- The day that a text writes, blanks around it apart. -/
def parse (text : String) : Except TextError Day :=
  match readStrict? (Text.trim text.toList) with
  | some d => .ok d
  | none => .error (.invalid text)

/-- Reads three runs of digits with hyphens between them, from the first digit or hyphen on. -/
def readLenient? (cs : List Char) : Option Day := do
  let start := cs.dropWhile fun c => !(c.isDigit || c == '-')
  let (year, rest) ← scanRun? start
  let rest ← scanHyphen? rest
  let (month, rest) ← scanRun? rest
  let rest ← scanHyphen? rest
  let (day, _) ← scanRun? rest
  ofFields? year month day

/-- The day that a request parameter names; what stands before and after it is ignored. -/
def clean (text : String) : Except TextError Day :=
  match readLenient? text.toList with
  | some d => .ok d
  | none => .error (.invalid text)

end Day

end NodeReport

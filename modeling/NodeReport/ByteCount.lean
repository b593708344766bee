import NodeReport.Number.Decimal
import NodeReport.Number.Reading
import NodeReport.Text.Basic
import NodeReport.Text.Quoted

/-! # Byte counts

  Byte counts are shown with the largest binary unit they exceed and at most three decimals, so
  that reading them back is approximate. Reading takes plain counts and counts with a unit.
-/

namespace NodeReport

/-- A binary unit of byte counts. -/
inductive ByteUnit where
  | gib
  | mib
  | kib
deriving DecidableEq, Repr

namespace ByteUnit

/-- The units, largest first. -/
def all : List ByteUnit := [.gib, .mib, .kib]

/-- How a unit is written. -/
def name : ByteUnit → String
  | .gib => "GiB"
  | .mib => "MiB"
  | .kib => "kiB"

/-- The power of two that a unit stands for. -/
def power : ByteUnit → Nat
  | .gib => 30
  | .mib => 20
  | .kib => 10

/-- Number of bytes of a unit. -/
def size (u : ByteUnit) : Nat := pow2 u.power

/-- The unit with this name. -/
def ofName? (name : List Char) : Option ByteUnit :=
  all.find? fun u => u.name.toList == name

end ByteUnit

/-! ### Writing -/

/-- A count in a unit with three decimals, zeros at the end and a bare point left out. -/
def scaledText (n : Nat) (u : ByteUnit) : List Char :=
  let digits :=
    match (Binary64.ofNat n).scale (-u.power) with
    | .finite _ m e _ => Decimal.fixedPlaces 3 (Binary64.numerator m e) (Binary64.denominator e)
    | _ => []
  Text.dropRightWhile (· == '.') (Text.dropRightWhile (· == '0') digits)

/-- The largest unit that a count exceeds. -/
def exceededUnit? (n : Nat) : Option ByteUnit :=
  ByteUnit.all.find? fun u => decide (u.size < n)

/-- A byte count in the largest unit it exceeds; counts up to 1024 have none. -/
def formatBytes (n : Nat) : String :=
  match exceededUnit? n with
  | some u => String.ofList (scaledText n u ++ ' ' :: u.name.toList)
  | none => String.ofList (decimalDigits n)

/-! ### Reading -/

/-- Why a text is no byte count. -/
inductive ByteCountError where
  /-- The text ends like a unit but in none that is known. -/
  | unknownUnit (text : String)
  /-- What stands before the unit, or alone, is no count. -/
  | invalidNumber (text : String)
deriving DecidableEq, Repr

/-- The wording of an error. -/
def ByteCountError.message : ByteCountError → String
  | .unknownUnit text => "unrecognised byte unit in " ++ Text.quoted text
  | .invalidNumber text => Text.quoted text ++ " is not a byte count"

/-- Whether a text ends like a unit, blanks at its end apart. -/
def hasByteUnit (text : String) : Bool :=
  Text.endsWith "iB".toList (Text.trimEnd text.toList)

/-- A plain count: a natural number, else a number that is not negative, rounded. -/
def readPlainCount? (cs : List Char) : Option Nat :=
  match readNat? maxNat64 cs with
  | some n => some n
  | none =>
    match readBinary64? cs with
    | some x =>
      if x.isFinite && !x.isNegative then some (x.toNatUpTo maxNat64) else none
    | none => none

/-- A count in a unit: a number that is not negative, scaled and rounded. -/
def readScaledCount? (u : ByteUnit) (cs : List Char) : Option Nat :=
  match readBinary64? cs with
  | some x =>
    if x.isFinite && !x.isNegative then some ((x.scale u.power).toNatUpTo maxNat64) else none
  | none => none

/-- A byte count, plain or with a unit; every unit has three letters. -/
def parseBytes (text : String) : Except ByteCountError Nat :=
  let trimmed := Text.trim text.toList
  if Text.endsWith "iB".toList trimmed then
    let start := trimmed.length - 3
    match ByteUnit.ofName? (trimmed.drop start) with
    | none => .error (.unknownUnit text)
    | some u =>
      match readScaledCount? u (Text.trim (trimmed.take start)) with
      | some n => .ok n
      | none => .error (.invalidNumber text)
  else
    match readPlainCount? trimmed with
    | some n => .ok n
    | none => .error (.invalidNumber text)

/-- A byte count, where anything that is none counts as zero. -/
def parseBytesOrZero (text : String) : Nat :=
  match parseBytes text with
  | .ok n => n
  | .error _ => 0

end NodeReport

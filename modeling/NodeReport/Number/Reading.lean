import NodeReport.Number.Binary64

/-! # Numbers read from text

  Integers are ASCII digits after at most one sign. Floating-point numbers take digits with at
  most one point, an optional exponent, or the words for infinity and no number in any case, and
  read as the nearest number of their format.
-/

namespace NodeReport

/-- The number that a list of decimal digits writes. -/
def digitsValue (ds : List Char) : Nat :=
  ds.foldl (fun n c => 10 * n + (c.toNat - 48)) 0

/-- The number that a non-empty list of nothing but digits writes. -/
def readDigits? (cs : List Char) : Option Nat :=
  if !cs.isEmpty && cs.all Char.isDigit then some (digitsValue cs) else none

/-- A natural number up to `limit`, after at most one plus sign. -/
def readNat? (limit : Nat) (cs : List Char) : Option Nat :=
  let digits :=
    match cs with
    | '+' :: rest => rest
    | cs => cs
  (readDigits? digits).filter (· ≤ limit)

/-- An integer from `low` to `high`, after at most one sign. -/
def readInt? (low high : Int) (cs : List Char) : Option Int :=
  let value : Option Int :=
    match cs with
    | '+' :: rest => (readDigits? rest).map Int.ofNat
    | '-' :: rest => (readDigits? rest).map fun n => -(n : Int)
    | cs => (readDigits? cs).map Int.ofNat
  value.filter fun n => decide (low ≤ n ∧ n ≤ high)

/-- Least integer of 64 bits. -/
def minInt64 : Int := -9223372036854775808

/-- Greatest integer of 64 bits. -/
def maxInt64 : Int := 9223372036854775807

/-- Greatest natural number of 64 bits. -/
def maxNat64 : Nat := 18446744073709551615

/-- An integer of 64 bits. -/
def readInt64? (cs : List Char) : Option Int :=
  readInt? minInt64 maxInt64 cs

/-! ### Decimal numbers -/

/-- The number `±digits * 10^exponent`. -/
structure DecimalNumber where
  /-- Whether a minus sign stands in front. -/
  negative : Bool
  /-- The digits as a whole number. -/
  digits : Nat
  /-- The power of ten. -/
  exponent : Int

namespace DecimalNumber

/-- Splits a sign off. -/
def splitSign : List Char → Bool × List Char
  | '-' :: rest => (true, rest)
  | '+' :: rest => (false, rest)
  | cs => (false, cs)

/-- The value of an exponent, with the mark `e`; nothing at all counts as zero. -/
def readExponent? : List Char → Option Int
  | [] => some 0
  | mark :: rest =>
    if mark = 'e' ∨ mark = 'E' then
      let (negative, digits) := splitSign rest
      (readDigits? digits).map (Binary64.signed negative)
    else none

/-- Digits with at most one point, then an optional exponent. -/
def readUnsigned? (negative : Bool) (cs : List Char) : Option DecimalNumber :=
  let whole := cs.takeWhile Char.isDigit
  let rest := cs.dropWhile Char.isDigit
  let (places, rest) :=
    match rest with
    | '.' :: after => (after.takeWhile Char.isDigit, after.dropWhile Char.isDigit)
    | rest => ([], rest)
  if whole.isEmpty && places.isEmpty then none
  else
    (readExponent? rest).map fun exponent =>
      ⟨negative, digitsValue (whole ++ places), exponent - places.length⟩

/-- A decimal number: a sign, digits with at most one point, an exponent. -/
def read? (cs : List Char) : Option DecimalNumber :=
  let (negative, rest) := splitSign cs
  readUnsigned? negative rest

/-- The nearest number of the format; exponents beyond its range are not expanded. -/
def nearest (d : DecimalNumber) : Binary64 :=
  let size : Int := (Nat.toDigits 10 d.digits).length + d.exponent
  if d.digits = 0 ∨ size < -400 then Binary64.zero d.negative
  else if 400 < size then .infinite d.negative
  else
    Binary64.nearest d.negative (d.digits * pow10 d.exponent.toNat) (pow10 (-d.exponent).toNat)

end DecimalNumber

/-- The words for what is not finite, in lower case. -/
def readWord? (negative : Bool) (cs : List Char) : Option Binary64 :=
  let word := cs.map Char.toLower
  if word = "inf".toList ∨ word = "infinity".toList then some (.infinite negative)
  else if word = "nan".toList then some .nan
  else none

/-- A floating-point number. -/
def readBinary64? (cs : List Char) : Option Binary64 :=
  let (negative, rest) := DecimalNumber.splitSign cs
  match readWord? negative rest with
  | some x => some x
  | none => (DecimalNumber.readUnsigned? negative rest).map DecimalNumber.nearest

end NodeReport

import NodeReport.Number.Extended
import NodeReport.Table.Cell
import NodeReport.Text.Basic
import NodeReport.Text.Utf8

/-! # Stored values

  The values that a store holds, their order, and the conversions that a column's affinity asks
  for. Texts are held as bytes, which need not be UTF-8.
-/

namespace NodeReport

/-- A value in a store. -/
inductive StoredValue where
  /-- No value. -/
  | null
  /-- A whole number of 64 bits. -/
  | integer (n : Int)
  /-- A floating-point number. -/
  | real (x : Binary64)
  /-- A text, by its bytes. -/
  | text (bytes : List UInt8)
  /-- Bytes without a meaning. -/
  | blob (bytes : List UInt8)
deriving DecidableEq

namespace StoredValue

instance : Inhabited StoredValue := ⟨null⟩

/-- A text of characters. -/
def ofText (s : String) : StoredValue :=
  .text (Text.utf8 s)

/-- A floating-point number; no number is no value. -/
def ofReal : Binary64 → StoredValue
  | .nan => .null
  | x => .real x

/-- The stored value of a cell; marks of presence are numbers. -/
def ofCell : Cell → StoredValue
  | .null => .null
  | .integer n => .integer n
  | .real x => ofReal x
  | .text s => ofText s
  | .flag b => .integer (if b then 1 else 0)

/-- The cell of a stored value; bytes without a meaning are only counted. -/
def toCell : StoredValue → Cell
  | .null => .null
  | .integer n => .integer n
  | .real x => .real x
  | .text bytes => .text (String.ofList (Text.decode bytes))
  | .blob bytes => .text ("<" ++ String.ofList (decimalDigits bytes.length) ++ " bytes>")

/-- The name of a value's kind. -/
def kindName : StoredValue → String
  | .null => "Null"
  | .integer _ => "Integer"
  | .real _ => "Real"
  | .text _ => "Text"
  | .blob _ => "Blob"

/-! ### Order -/

/-- The order of lists of bytes, byte by byte. -/
def compareBytes : List UInt8 → List UInt8 → Ordering
  | [], [] => .eq
  | [], _ :: _ => .lt
  | _ :: _, [] => .gt
  | a :: as, b :: bs => (compare a.toNat b.toNat).then (compareBytes as bs)

end StoredValue

/-- The order of texts that a column asks for. -/
inductive Collation where
  /-- Byte by byte. -/
  | binary
  /-- Letters of ASCII without regard to their case. -/
  | noCase
  /-- Without regard to spaces at the end. -/
  | trimmed
deriving DecidableEq, Repr

namespace Collation

/-- A byte, or the small letter if it is a capital one. -/
def smallLetter (b : UInt8) : UInt8 :=
  if 65 ≤ b.toNat ∧ b.toNat ≤ 90 then b + 32 else b

/-- What is compared of a text: some bytes, and after them a number. -/
def key : Collation → List UInt8 → List UInt8 × Nat
  | .binary, bytes => (bytes, 0)
  -- nothing behind a byte of value zero is looked at, but it counts for the length
  | .noCase, bytes => ((bytes.takeWhile (· != 0)).map smallLetter, bytes.length)
  | .trimmed, bytes => ((bytes.reverse.dropWhile (· == 0x20)).reverse, 0)

/-- The order of texts. -/
def compare (c : Collation) (as bs : List UInt8) : Ordering :=
  (StoredValue.compareBytes (c.key as).1 (c.key bs).1).then (Ord.compare (c.key as).2 (c.key bs).2)

end Collation

namespace StoredValue

/-- Place of a value's kind in the order: no value, numbers, texts, other bytes. -/
def rank : StoredValue → Nat
  | .null => 0
  | .integer _ => 1
  | .real _ => 1
  | .text _ => 2
  | .blob _ => 3

/-- The order of values: by kind, numbers by value, texts as the collation says, other bytes byte by
    byte. -/
def order (c : Collation) : StoredValue → StoredValue → Ordering
  | .integer a, .integer b => compare a b
  | .integer a, .real b => (b.compareInt a).swap
  | .real a, .integer b => a.compareInt b
  | .real a, .real b => a.compare b
  | .text a, .text b => c.compare a b
  | .blob a, .blob b => compareBytes a b
  | a, b => compare a.rank b.rank

end StoredValue

/-! ### Affinity -/

/-- The kind of values that a column prefers. -/
inductive Affinity where
  /-- Any value stays as it is. -/
  | anything
  /-- Texts that write a number become numbers, and whole numbers integers. -/
  | numeric
  /-- Numbers become texts. -/
  | text
deriving DecidableEq, Repr

namespace Affinity

/-- A floating-point number as an integer, if it is whole and inside the range of 64 bits. -/
def wholeReal (x : Binary64) : StoredValue :=
  match x.toInt? with
  | some n => if minInt64 < n ∧ n < maxInt64 then .integer n else .real x
  | none => .real x

/-- A blank that may surround a number. -/
def isNumberBlank (c : Char) : Bool :=
  decide (9 ≤ c.toNat ∧ c.toNat ≤ 13) || c == ' '

/-- The number that a text writes as a whole. -/
def numberOf? (bytes : List UInt8) : Option StoredValue :=
  let cs := bytes.map fun b => Char.ofNat b.toNat
  let trimmed := Text.dropRightWhile isNumberBlank (cs.dropWhile isNumberBlank)
  match readInt64? trimmed with
  | some n => some (.integer n)
  | none => (DecimalNumber.read? trimmed).map fun d => wholeReal (Extended.ofDecimal d)

/-- The text of a number: fifteen significant digits, of which zeros at the end are left out, with
    a point, and with an exponent below `-4` and above `14`. -/
def realText : Binary64 → String
  | .nan => "NaN"
  | .infinite negative => if negative then "-Inf" else "Inf"
  | .finite negative m e _ =>
    if m = 0 then "0.0"
    else
      let d := Extended.firstDigits 15 m e
      let exponent := d.point - 1
      let body :=
        if exponent < -4 ∨ 14 < exponent then
          let rest := d.digits.drop 1
          d.digits.take 1 ++ '.' :: (if rest.isEmpty then ['0'] else rest)
            ++ 'e' :: (if exponent < 0 then '-' else '+') :: paddedDigits 2 exponent.natAbs
        else Decimal.positional Decimal.diagnostic d
      String.ofList (if negative then '-' :: body else body)

/-- The value as a column of this affinity holds it. -/
def apply : Affinity → StoredValue → StoredValue
  | .numeric, .text bytes => (numberOf? bytes).getD (.text bytes)
  | .numeric, .real x => wholeReal x
  | .text, .integer n => .ofText (integerText n)
  | .text, .real x => .ofText (realText x)
  | _, v => v

end Affinity

/-! ### Whole numbers -/

namespace StoredValue

/-- The number that the digits at the start of a text write, after blanks and a sign; without
    digits it is zero. -/
def leadingInteger (bytes : List UInt8) : Int :=
  let cs := (bytes.map fun b => Char.ofNat b.toNat).dropWhile Affinity.isNumberBlank
  let (negative, rest) := DecimalNumber.splitSign cs
  Binary64.signed negative (digitsValue (rest.takeWhile Char.isDigit))

/-- The whole number that a value counts as, inside the range of 64 bits. -/
def wholeNumber : StoredValue → Int
  | .null => 0
  | .integer n => n
  | .real x => x.truncateWithin minInt64 maxInt64
  | .text bytes => max minInt64 (min maxInt64 (leadingInteger bytes))
  | .blob bytes => max minInt64 (min maxInt64 (leadingInteger bytes))

end StoredValue

end NodeReport

import NodeReport.Number.Decimal
import NodeReport.Number.Reading

/-! # Numbers of sixty-four bits

  Positive numbers `m * 2^e` with a mantissa of 64 bits, and conversions between decimal texts and
  the format binary64 by products with powers of ten in this wider format. Every product is rounded,
  so that a conversion may miss the nearest number by one place.
-/

namespace NodeReport

/-- The positive number `mantissa * 2^exponent`, with a mantissa of 64 bits. -/
structure Extended where
  /-- The mantissa. -/
  mantissa : Nat
  /-- The power of two. -/
  exponent : Int
deriving DecidableEq, Repr

namespace Extended

/-- The number nearest to a positive quotient, a tie going to the even mantissa. -/
def nearest (num den : Nat) : Extended :=
  let e := Binary64.floorLog2 num den - 63
  let m := roundDiv .toEven (num * pow2 (-e).toNat) (den * pow2 e.toNat)
  if m = pow2 64 then ⟨pow2 63, e + 1⟩ else ⟨m, e⟩

/-- The number nearest to a power of ten. -/
def powerOfTen (p : Int) : Extended :=
  nearest (pow10 p.toNat) (pow10 (-p).toNat)

/-- The product of two numbers. -/
def mul (a b : Extended) : Extended :=
  let product := nearest (a.mantissa * b.mantissa) 1
  ⟨product.mantissa, product.exponent + a.exponent + b.exponent⟩

/-- Whether a number is not less than another. -/
def atLeast (a b : Extended) : Bool :=
  decide (b.exponent < a.exponent) ||
    (a.exponent == b.exponent && decide (b.mantissa ≤ a.mantissa))

/-- The whole part of a number. -/
def floor (x : Extended) : Nat :=
  Binary64.numerator x.mantissa x.exponent / Binary64.denominator x.exponent

/-- The product with `10^p`, by hundreds of places, then by tens, then one by one. -/
def timesPowerOfTen (x : Extended) (p : Int) : Extended :=
  let factor (places : Int) : Extended := powerOfTen (if p < 0 then -places else places)
  let hundreds := Nat.repeat (mul · (factor 100)) (p.natAbs / 100) x
  let tens := Nat.repeat (mul · (factor 10)) (p.natAbs % 100 / 10) hundreds
  Nat.repeat (mul · (factor 1)) (p.natAbs % 10) tens

/-- The number of the format binary64 nearest to `±x`; what exceeds the format is infinite. -/
def toBinary64 (negative : Bool) (x : Extended) : Binary64 :=
  if (pow2 53 - 1) * pow2 971 * Binary64.denominator x.exponent
      < Binary64.numerator x.mantissa x.exponent then .infinite negative
  else Binary64.nearestScaled negative x.mantissa x.exponent

/-! ### From decimal texts -/

/-- Digits are taken as long as the number they write stays below this one. -/
def digitLimit : Nat := 1844674407370955160

/-- The leading digits of a number, as many as fit 64 bits, and the power of ten left over. -/
def leadingDigits (n : Nat) (e : Int) : Nat × Int :=
  if n / 10 < digitLimit then (n, e) else leadingDigits (n / 10) (e + 1)
termination_by n
decreasing_by
  simp only [digitLimit] at *
  omega

/-- Moves places of a positive exponent into the digits, as many as fit 64 bits. -/
def fillDigits : Nat → Nat → Nat × Nat
  | 0, digits => (digits, 0)
  | places + 1, digits =>
    if digits < maxNat64 / 10 then fillDigits places (10 * digits) else (digits, places + 1)

/-- Drops zeros at the end of the digits against places of a negative exponent. -/
def dropZeros : Nat → Nat → Nat × Nat
  | 0, digits => (digits, 0)
  | places + 1, digits =>
    if digits % 10 = 0 then dropZeros places (digits / 10) else (digits, places + 1)

/-- Digits and an exponent, of which one is as near to zero as it can be. -/
def balanced (digits : Nat) (e : Int) : Nat × Int :=
  if e < 0 then
    let (digits, places) := dropZeros e.natAbs digits
    (digits, -(places : Int))
  else
    let (digits, places) := fillDigits e.natAbs digits
    (digits, places)

/-- The number of the format binary64 that a decimal number is converted to. -/
def ofDecimal (d : DecimalNumber) : Binary64 :=
  let size : Int := (decimalDigits d.digits).length + d.exponent
  if d.digits = 0 ∨ size < -400 then Binary64.zero d.negative
  else if 400 < size then .infinite d.negative
  else
    let (digits, e) := leadingDigits d.digits d.exponent
    let (digits, e) := balanced digits e
    if e = 0 then Binary64.nearest d.negative digits 1
    else toBinary64 d.negative (timesPowerOfTen (nearest digits 1) e)

/-! ### To decimal digits -/

/-- Divides by `10^step` while a test holds, at most so many times; the places are counted. -/
def scaleWhile (test : Extended → Bool) (step : Int) : Nat → Extended × Int → Extended × Int
  | 0, state => state
  | fuel + 1, (x, places) =>
    if test x then scaleWhile test step fuel (x.mul (powerOfTen (-step)), places + step)
    else (x, places)

/-- A number brought between `10^17` and `10^19`, and the places it was moved by. -/
def scaled (x : Extended) : Extended × Int :=
  let reaches (p : Int) (y : Extended) : Bool := y.atLeast (powerOfTen p)
  let misses (p : Int) (y : Extended) : Bool := !reaches p y
  if reaches 19 x then
    scaleWhile (reaches 19) 1 20
      (scaleWhile (reaches 29) 10 20 (scaleWhile (reaches 119) 100 20 (x, 0)))
  else
    scaleWhile (misses 17) (-1) 20
      (scaleWhile (misses 7) (-10) 20 (scaleWhile (misses (-97)) (-100) 20 (x, 0)))

/-- The first digits of `m * 2^e`, `m` positive, without zeros at the end; the digit after the last
    of them decides alone whether it goes up. -/
def firstDigits (count m : Nat) (e : Int) : Decimal.Digits :=
  let start := nearest (Binary64.numerator m e) (Binary64.denominator e)
  let (x, places) := scaled start
  let all := decimalDigits x.floor
  let up := '5' ≤ all.getD count '0'
  let units := digitsValue (all.take count) + if up then 1 else 0
  let digits := decimalDigits units
  let carried := if count < digits.length then 1 else 0
  ⟨(digits.reverse.dropWhile (· == '0')).reverse, all.length + places + carried⟩

end Extended

end NodeReport

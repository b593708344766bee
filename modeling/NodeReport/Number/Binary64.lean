/-! # Binary floating-point numbers

  Numbers of the format binary64, with exact arithmetic on their mantissas: a finite number is
  `±m * 2^e` in the one form with a full mantissa or the least exponent. Every operation gives
  the number nearest to its exact result, a tie going to the even mantissa.
-/

namespace NodeReport

/-! ### Powers and rounded quotients -/

/-- A power of two. -/
abbrev pow2 (n : Nat) : Nat := Nat.pow 2 n

/-- A power of ten. -/
abbrev pow10 (n : Nat) : Nat := Nat.pow 10 n

/-- Where a quotient half way between two whole numbers goes. -/
inductive Tie where
  /-- To the even one of the two. -/
  | toEven
  /-- To the greater one. -/
  | up
deriving DecidableEq, Repr

/-- The whole number nearest to `num / den`. -/
def roundDiv (tie : Tie) (num den : Nat) : Nat :=
  let q := num / den
  let r := num % den
  if 2 * r < den then q
  else if den < 2 * r then q + 1
  else
    match tie with
    | .toEven => q + q % 2
    | .up => q + 1

/-! ### The numbers -/

/-- The one form of a magnitude `m * 2^e`: 53 bits, or the least exponent. -/
def IsCanonical (m : Nat) (e : Int) : Prop :=
  m < pow2 53 ∧ (pow2 52 ≤ m ∨ e = -1074) ∧ -1074 ≤ e ∧ e ≤ 971

instance (m : Nat) (e : Int) : Decidable (IsCanonical m e) :=
  inferInstanceAs (Decidable (_ ∧ _))

/-- A number of the format binary64. -/
inductive Binary64 where
  /-- No number. -/
  | nan
  /-- An infinity. -/
  | infinite (negative : Bool)
  /-- The number `±mantissa * 2^exponent`. -/
  | finite (negative : Bool) (mantissa : Nat) (exponent : Int)
      (canonical : IsCanonical mantissa exponent)
deriving DecidableEq

namespace Binary64

/-- Zero, with a sign. -/
def zero (negative : Bool) : Binary64 :=
  .finite negative 0 (-1074) (by decide)

instance : Inhabited Binary64 := ⟨zero false⟩

/-! ### Rounding to the format -/

/-- The greatest `k` with `2^k ≤ num / den`, for positive numbers. -/
def floorLog2 (num den : Nat) : Int :=
  let k : Int := (num.log2 : Int) - (den.log2 : Int)
  if den * pow2 k.toNat ≤ num * pow2 (-k).toNat then k else k - 1

/-- Exponent at which a positive quotient has 53 bits, or the least exponent. -/
def exponentFor (num den : Nat) : Int :=
  max (-1074) (floorLog2 num den - 52)

/-- The number nearest to `±num / den`. -/
def nearest (negative : Bool) (num den : Nat) : Binary64 :=
  if num = 0 then zero negative
  else
    let e := exponentFor num den
    let m := roundDiv .toEven (num * pow2 (-e).toNat) (den * pow2 e.toNat)
    if h : IsCanonical m e then .finite negative m e h
    else if h : IsCanonical (pow2 52) (e + 1) then .finite negative (pow2 52) (e + 1) h
    else .infinite negative

/-- The numerator of `m * 2^e`, over `denominator e`. -/
def numerator (m : Nat) (e : Int) : Nat :=
  m * pow2 e.toNat

/-- The denominator of every `m * 2^e`. -/
def denominator (e : Int) : Nat :=
  pow2 (-e).toNat

/-- The number nearest to `±m * 2^e`. -/
def nearestScaled (negative : Bool) (m : Nat) (e : Int) : Binary64 :=
  nearest negative (numerator m e) (denominator e)

/-- The number nearest to a natural number. -/
def ofNat (n : Nat) : Binary64 :=
  nearest false n 1

/-- The number nearest to an integer. -/
def ofInt (n : Int) : Binary64 :=
  nearest (decide (n < 0)) n.natAbs 1

/-! ### Arithmetic -/

/-- The product with `2^k`. -/
def scale (x : Binary64) (k : Int) : Binary64 :=
  match x with
  | .nan => .nan
  | .infinite negative => .infinite negative
  | .finite negative m e _ => nearestScaled negative m (e + k)

/-- A magnitude with its sign. -/
def signed (negative : Bool) (m : Nat) : Int :=
  if negative then -(m : Int) else m

/-- The sum of two numbers. -/
def add : Binary64 → Binary64 → Binary64
  | .nan, _ => .nan
  | _, .nan => .nan
  | .infinite s, .infinite t => if s = t then .infinite s else .nan
  | .infinite s, .finite .. => .infinite s
  | .finite .., .infinite t => .infinite t
  | .finite s m d _, .finite t n e _ =>
    let least := min d e
    let total :=
      signed s (numerator m (d - least)) + signed t (numerator n (e - least))
    if total = 0 then zero (s && t)
    else nearestScaled (decide (total < 0)) total.natAbs least

instance : Add Binary64 := ⟨add⟩

/-! ### Questions -/

/-- Neither infinite nor no number. -/
def isFinite : Binary64 → Bool
  | .finite .. => true
  | _ => false

/-- Greater than zero. -/
def isPositive : Binary64 → Bool
  | .nan => false
  | .infinite negative => !negative
  | .finite negative m .. => !negative && m != 0

/-- Less than zero. -/
def isNegative : Binary64 → Bool
  | .nan => false
  | .infinite negative => negative
  | .finite negative m .. => negative && m != 0

/-- Whether the part after the point is anything but zero; it is for what is not finite. -/
def isFractional : Binary64 → Bool
  | .finite _ m e _ => m % denominator e != 0
  | _ => true

/-- Order of two numbers, of which neither is `nan`. -/
def compare : Binary64 → Binary64 → Ordering
  | .finite s m d _, .finite t n e _ =>
    Ord.compare (signed s (numerator m d * denominator e))
      (signed t (numerator n e * denominator d))
  | .infinite s, .infinite t => Ord.compare t s
  | .infinite s, _ => if s then .lt else .gt
  | _, .infinite t => if t then .gt else .lt
  | .nan, .nan => .eq
  | .nan, _ => .lt
  | _, .nan => .gt

/-- Order of a number, other than `nan`, and an integer. -/
def compareInt : Binary64 → Int → Ordering
  | .finite s m e _, n =>
    Ord.compare (signed s (numerator m e)) (n * denominator e)
  | .infinite s, _ => if s then .lt else .gt
  | .nan, _ => .lt

/-! ### Whole numbers -/

/-- The nearest whole number, a tie going away from zero, without its sign; infinities have none. -/
def roundMagnitude (m : Nat) (e : Int) : Nat :=
  roundDiv .up (numerator m e) (denominator e)

/-- The nearest natural number up to `limit`; what lies outside goes to the nearer end. -/
def toNatUpTo (limit : Nat) : Binary64 → Nat
  | .nan => 0
  | .infinite negative => if negative then 0 else limit
  | .finite negative m e _ => if negative then 0 else min limit (roundMagnitude m e)

/-- The nearest integer from `low` to `high`; what lies outside goes to the nearer end. -/
def toIntWithin (low high : Int) : Binary64 → Int
  | .nan => 0
  | .infinite negative => if negative then low else high
  | .finite negative m e _ => max low (min high (signed negative (roundMagnitude m e)))

/-- The integer from `low` to `high` that is left without the fraction; what lies outside goes to the
    nearer end. -/
def truncateWithin (low high : Int) : Binary64 → Int
  | .nan => 0
  | .infinite negative => if negative then low else high
  | .finite negative m e _ =>
    max low (min high (signed negative (numerator m e / denominator e)))

/-- The integer that a finite whole number is equal to. -/
def toInt? : Binary64 → Option Int
  | .finite negative m e h =>
    if isFractional (.finite negative m e h) then none
    else some (signed negative (numerator m e / denominator e))
  | _ => none

end Binary64

end NodeReport

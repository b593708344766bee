import NodeReport.Number.Binary64

/-! # Decimal texts of numbers

  The fewest decimal digits that read back as a number, the layouts in which they are written, and
  numbers with a fixed count of places.
-/

namespace NodeReport

/-- The decimal digits of a natural number. -/
def decimalDigits (n : Nat) : List Char :=
  Nat.toDigits 10 n

/-- The decimal digits of a natural number, with zeros in front up to a least count. -/
def paddedDigits (least n : Nat) : List Char :=
  let ds := decimalDigits n
  List.replicate (least - ds.length) '0' ++ ds

/-- An integer in decimal, with a sign if it is negative. -/
def integerText (n : Int) : String :=
  if n < 0 then String.ofList ('-' :: decimalDigits n.natAbs)
  else String.ofList (decimalDigits n.natAbs)

namespace Decimal

/-- The number `0.d₁d₂… * 10^point` with digits `d₁d₂…`, of which the first is not zero. -/
structure Digits where
  /-- The digits, without zeros at the end. -/
  digits : List Char
  /-- Place of the point, counted from the first digit. -/
  point : Int

/-- The greatest `p` with `10^p ≤ num / den`, for positive numbers. -/
def floorLog10 (num den : Nat) : Int :=
  if den ≤ num then ((decimalDigits (num / den)).length : Int) - 1
  else -((decimalDigits ((den - 1) / num)).length : Int)

/-- The interval of quotients that round to `m * 2^e`, in quarters of `2^e`: below, above, and
    whether its ends belong to it. -/
def roundingInterval (m : Nat) (e : Int) : Nat × Nat × Bool :=
  (if m = pow2 52 ∧ e ≠ -1074 then 4 * m - 1 else 4 * m - 2, 4 * m + 2, m % 2 == 0)

/-- Whether `n * 10^g` lies in the interval, given in units of `num / den`. -/
def inInterval (interval : Nat × Nat × Bool) (num den : Nat) (n : Nat) (g : Int) : Bool :=
  let (low, high, closed) := interval
  let value := n * pow10 g.toNat * den
  let unit := num * pow10 (-g).toNat
  if closed then decide (low * unit ≤ value ∧ value ≤ high * unit)
  else decide (low * unit < value ∧ value < high * unit)

/-- The multiple of `10^g` next to `m * 2^e` that reads back as it, the nearer one of two. -/
def gridPoint? (tie : Tie) (m : Nat) (e : Int) (g : Int) : Option Nat :=
  let num := pow2 e.toNat
  let den := 4 * pow2 (-e).toNat
  let interval := roundingInterval m e
  let value := 4 * m * num * pow10 (-g).toNat
  let step := den * pow10 g.toNat
  let below := value / step
  let nearer := roundDiv tie value step
  let farther := if nearer = below then below + 1 else below
  if inInterval interval num den nearer g then some nearer
  else if inInterval interval num den farther g then some farther
  else none

/-- Searches the grids with `count`, `count + 1`, … digits. -/
def shortestFrom (tie : Tie) (m : Nat) (e : Int) (top : Int) : Nat → Int → Nat × Int
  | 0, count => (m, top - count + 1)
  | fuel + 1, count =>
    let g := top - count + 1
    match gridPoint? tie m e g with
    | some n => (n, g)
    | none => shortestFrom tie m e top fuel (count + 1)

/-- The fewest digits that read back as the positive number `m * 2^e`; of two equally near ones
    those that the tie asks for. -/
def shortest (tie : Tie) (m : Nat) (e : Int) : Digits :=
  let top := floorLog10 (Binary64.numerator m e) (Binary64.denominator e)
  let (n, g) := shortestFrom tie m e top 17 1
  let ds := decimalDigits n
  ⟨(ds.reverse.dropWhile (· == '0')).reverse, ds.length + g⟩

/-! ### Layouts -/

/-- How the digits of a number are laid out. -/
structure Style where
  /-- Which one of two equally near sequences of digits is written. -/
  tie : Tie
  /-- Least power of ten of the first digit that is written without an exponent, if any. -/
  least : Option Int
  /-- Greatest power of ten of the first digit that is written without an exponent, if any. -/
  greatest : Option Int
  /-- Whether a whole number keeps a point and a zero. -/
  keepPoint : Bool
  /-- Whether a positive exponent has a sign. -/
  plusExponent : Bool
  /-- What stands for no number. -/
  nan : String
  /-- What stands for an infinity, after its sign, if it has one. -/
  infinity : Option String

/-- Digits with a point and no exponent. -/
def positional (style : Style) (d : Digits) : List Char :=
  if d.point ≤ 0 then '0' :: '.' :: List.replicate (-d.point).toNat '0' ++ d.digits
  else
    let whole := d.point.toNat
    if d.digits.length ≤ whole then
      d.digits ++ List.replicate (whole - d.digits.length) '0'
        ++ (if style.keepPoint then ['.', '0'] else [])
    else d.digits.take whole ++ '.' :: d.digits.drop whole

/-- Digits with a point after the first and an exponent. -/
def scientific (style : Style) (d : Digits) : List Char :=
  let exponent := d.point - 1
  let sign := if exponent < 0 then ['-'] else if style.plusExponent then ['+'] else []
  let mantissa :=
    match d.digits with
    | first :: second :: rest => first :: '.' :: second :: rest
    | ds => ds
  mantissa ++ 'e' :: sign ++ decimalDigits exponent.natAbs

/-- Whether a number with this power of ten in front is written without an exponent. -/
def Style.isPositional (style : Style) (power : Int) : Bool :=
  style.least.all (fun l => decide (l ≤ power)) &&
    style.greatest.all (fun g => decide (power ≤ g))

/-- The text of a number in a layout. -/
def render (style : Style) : Binary64 → String
  | .nan => style.nan
  | .infinite negative =>
    match style.infinity with
    | some text => if negative then "-" ++ text else text
    | none => style.nan
  | .finite negative m e _ =>
    let body :=
      if m = 0 then if style.keepPoint then "0.0".toList else "0".toList
      else
        let d := shortest style.tie m e
        if style.isPositional (d.point - 1) then positional style d else scientific style d
    String.ofList (if negative then '-' :: body else body)

/-- Numbers as reports show them: never an exponent, no point on whole numbers. -/
def shown : Style where
  tie := .up
  least := none
  greatest := none
  keepPoint := false
  plusExponent := false
  nan := "NaN"
  infinity := some "inf"

/-- Numbers as diagnostics show them: a point or an exponent on every one. -/
def diagnostic : Style where
  tie := .up
  least := some (-4)
  greatest := some 15
  keepPoint := true
  plusExponent := false
  nan := "NaN"
  infinity := some "inf"

/-- Numbers in documents, where what is not finite has no text of its own. -/
def document : Style where
  tie := .toEven
  least := some (-5)
  greatest := some 15
  keepPoint := true
  plusExponent := true
  nan := "null"
  infinity := none

/-! ### Fixed places -/

/-- The digits of `num / den` rounded to a count of places, a tie going to the even digit. -/
def fixedPlaces (places num den : Nat) : List Char :=
  let units := roundDiv .toEven (num * pow10 places) den
  decimalDigits (units / pow10 places) ++ '.' :: paddedDigits places (units % pow10 places)

end Decimal

end NodeReport

/-! # Characters and parts of texts

  Character classes that no short rule describes are given as lists of closed ranges of code
  points, in increasing order. A text can be freed of the blanks at its ends, which are the
  characters with the property White_Space, and cut at each place where a separator stands. There
  is always a first part, and joining the parts with the separator gives the text back.
-/

namespace NodeReport.Text

/-! ### Ranges of characters -/

/-- Whether a code point lies in one of the closed ranges. -/
def inRanges (ranges : List (Nat × Nat)) (c : Char) : Bool :=
  ranges.any fun r => decide (r.1 ≤ c.toNat) && decide (c.toNat ≤ r.2)

/-- Whether a code point lies between two others. -/
def between (low high : Nat) (c : Char) : Bool :=
  decide (low ≤ c.toNat) && decide (c.toNat ≤ high)

/-- Whether a character has this code point. -/
def hasCode (code : Nat) (c : Char) : Bool :=
  c.toNat == code

/-! ### Blanks -/

/-- A character with the property White_Space. -/
def isBlank (c : Char) : Bool :=
  let n := c.toNat
  decide (9 ≤ n ∧ n ≤ 13) || n == 0x20 || n == 0x85 || n == 0xA0 || n == 0x1680
    || decide (0x2000 ≤ n ∧ n ≤ 0x200A) || n == 0x2028 || n == 0x2029 || n == 0x202F
    || n == 0x205F || n == 0x3000

/-- The characters up to the last one that fails `p`. -/
def dropRightWhile (p : Char → Bool) (cs : List Char) : List Char :=
  (cs.reverse.dropWhile p).reverse

/-- The characters without the blanks at the start. -/
def trimStart (cs : List Char) : List Char :=
  cs.dropWhile isBlank

/-- The characters without the blanks at the end. -/
def trimEnd (cs : List Char) : List Char :=
  dropRightWhile isBlank cs

/-- The characters without the blanks at both ends. -/
def trim (cs : List Char) : List Char :=
  trimEnd (trimStart cs)

/-- Whether `tail` is the end of `cs`. -/
def endsWith (tail cs : List Char) : Bool :=
  tail.reverse.isPrefixOf cs.reverse

/-! ### Parts -/

/-- The parts of a text between its separators. -/
def split (separator : Char) : List Char → List (List Char)
  | [] => [[]]
  | c :: rest =>
    if c = separator then [] :: split separator rest
    else
      match split separator rest with
      | [] => [[c]]
      | part :: parts => (c :: part) :: parts

end NodeReport.Text

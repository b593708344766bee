import NodeReport.Text.Utf8

/-! # The encodings of addresses

  The value of a query parameter is written in the encoding of forms: letters, digits and `*-._`
  stand for themselves, a space is written `+`, and every other byte as `%` and two upper-case
  hexadecimal digits. The other parts of an address are read with `%` and two hexadecimal digits
  for a byte, and a byte of value zero ends the text.
-/

namespace NodeReport.Text

/-! ### Writing a query -/

/-- A byte that stands for itself in a query. -/
def isQueryByte (b : UInt8) : Bool :=
  let c := Char.ofNat b.toNat
  c.isAlphanum || c == '*' || c == '-' || c == '.' || c == '_'

/-- The upper-case hexadecimal digit of a number below sixteen. -/
def upperHexDigit (n : Nat) : Char :=
  if n < 10 then Char.ofNat (48 + n) else Char.ofNat (55 + n)

/-- One byte within a query parameter. -/
def encodeQueryByte (b : UInt8) : List Char :=
  if isQueryByte b then [Char.ofNat b.toNat]
  else if b = 0x20 then ['+']
  else ['%', upperHexDigit (b.toNat / 16), upperHexDigit (b.toNat % 16)]

/-- A text as the value of a query parameter. -/
def formEncode (s : String) : String :=
  String.ofList ((utf8 s).flatMap encodeQueryByte)

/-! ### Reading an address -/

/-- The value of a hexadecimal digit, in either case. -/
def hexValue? (c : Char) : Option Nat :=
  let n := c.toNat
  if '0' ≤ c ∧ c ≤ '9' then some (n - 48)
  else if 'A' ≤ c ∧ c ≤ 'F' then some (n - 55)
  else if 'a' ≤ c ∧ c ≤ 'f' then some (n - 87)
  else none

/-- The byte that two hexadecimal digits write. -/
def hexByte? (high low : Char) : Option Nat :=
  match hexValue? high, hexValue? low with
  | some h, some l => some (16 * h + l)
  | _, _ => none

/-- The bytes that a text stands for; a `%` without two digits stands for itself. -/
def percentBytes : List Char → List UInt8
  | c :: a :: b :: rest =>
    if c = '%' then
      match hexByte? a b with
      | some 0 => []
      | some n => UInt8.ofNat n :: percentBytes rest
      | none => utf8Bytes [c] ++ percentBytes (a :: b :: rest)
    else utf8Bytes [c] ++ percentBytes (a :: b :: rest)
  | cs => utf8Bytes cs

/-- The text that a part of an address stands for. -/
def percentDecode (cs : List Char) : String :=
  String.ofList (decode (percentBytes cs))

end NodeReport.Text

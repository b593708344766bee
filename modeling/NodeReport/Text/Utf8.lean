/-! # Texts as bytes

  A text is stored as its UTF-8 bytes. Reading bytes back never fails: each longest stretch of
  bytes that starts a character but does not finish it, and each byte that cannot start one, reads
  as the replacement character.
-/

namespace NodeReport.Text

/-- The UTF-8 bytes of a list of characters. -/
def utf8Bytes (cs : List Char) : List UInt8 :=
  cs.flatMap String.utf8EncodeChar

/-- The UTF-8 bytes of a text. -/
def utf8 (s : String) : List UInt8 :=
  utf8Bytes s.toList

/-- Stands for bytes that are no character. -/
def replacementChar : Char := '\uFFFD'

/-- A character of which some bytes are still to come. -/
structure PartialChar where
  /-- The bits read so far. -/
  bits : Nat
  /-- How many bytes are to come, less one. -/
  further : Nat
  /-- Least value of the next byte. -/
  low : Nat
  /-- Greatest value of the next byte. -/
  high : Nat

/-- The bytes that may follow a first byte which starts a longer character. -/
def PartialChar.start? (b : Nat) : Option PartialChar :=
  if 0xC2 ≤ b ∧ b ≤ 0xDF then some ⟨b - 0xC0, 0, 0x80, 0xBF⟩
  else if b = 0xE0 then some ⟨0, 1, 0xA0, 0xBF⟩
  else if b = 0xED then some ⟨0xD, 1, 0x80, 0x9F⟩
  else if 0xE1 ≤ b ∧ b ≤ 0xEF then some ⟨b - 0xE0, 1, 0x80, 0xBF⟩
  else if b = 0xF0 then some ⟨0, 2, 0x90, 0xBF⟩
  else if 0xF1 ≤ b ∧ b ≤ 0xF3 then some ⟨b - 0xF0, 2, 0x80, 0xBF⟩
  else if b = 0xF4 then some ⟨4, 2, 0x80, 0x8F⟩
  else none

/-- Reads a byte between two characters: what it stands for, and the character it starts. -/
def readFirst (b : Nat) : List Char × Option PartialChar :=
  if b < 0x80 then ([Char.ofNat b], none)
  else
    match PartialChar.start? b with
    | some p => ([], some p)
    | none => ([replacementChar], none)

/-- Reads a byte within a character; one that does not fit ends it and is read anew. -/
def PartialChar.read (p : PartialChar) (b : Nat) : List Char × Option PartialChar :=
  if p.low ≤ b ∧ b ≤ p.high then
    let bits := p.bits * 64 + (b - 0x80)
    match p.further with
    | 0 => ([Char.ofNat bits], none)
    | k + 1 => ([], some ⟨bits, k, 0x80, 0xBF⟩)
  else
    let (cs, next) := readFirst b
    (replacementChar :: cs, next)

/-- Reads bytes after the start of a character, if one is open. -/
def decodeFrom : Option PartialChar → List UInt8 → List Char
  | none, [] => []
  | some _, [] => [replacementChar]
  | state, b :: bs =>
    let (cs, next) :=
      match state with
      | none => readFirst b.toNat
      | some p => p.read b.toNat
    cs ++ decodeFrom next bs

/-- The characters of a list of bytes, with replacements where the bytes are not UTF-8. -/
def decode (bytes : List UInt8) : List Char :=
  decodeFrom none bytes

end NodeReport.Text

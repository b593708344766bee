import NodeReport.Text.CharWidth
import NodeReport.Text.Pictograph

/-! # Columns a text takes on a terminal

  A text takes the columns of its characters, but some characters merge with those behind them:
  letters join into one, a picture takes a skin tone, pictures are joined into one, and a selector
  chooses between the picture and the plain form of a character. So the characters are counted from
  the last to the first, each with what is known of the text behind it.
-/

namespace NodeReport.Text

/-! ### Letters that merge -/

/-- A lam, which merges with an alef behind it. -/
def isLam (c : Char) : Bool :=
  inRanges [(0x644, 0x644), (0x6B5, 0x6B8), (0x76A, 0x76A), (0x8A6, 0x8A6), (0x8C7, 0x8C7)] c

/-- An alef, which merges with a lam before it. -/
def isAlef (c : Char) : Bool :=
  inRanges
    [(0x622, 0x623), (0x625, 0x625), (0x627, 0x627), (0x671, 0x673), (0x675, 0x675),
     (0x773, 0x774), (0x870, 0x882)] c

/-- A Khmer letter that can be written below the one before it. -/
def isKhmerSubscript (c : Char) : Bool :=
  inRanges
    [(0x1780, 0x1782), (0x1784, 0x1787), (0x1789, 0x178C), (0x178E, 0x1793), (0x1795, 0x1798),
     (0x179B, 0x179D), (0x17A0, 0x17A0), (0x17A2, 0x17A2), (0x17A7, 0x17A7), (0x17AB, 0x17AC),
     (0x17AF, 0x17AF)] c

/-- A consonant of Tifinagh, two of which can be joined. -/
def isTifinaghConsonant (c : Char) : Bool :=
  between 0x2D31 0x2D65 c || hasCode 0x2D6F c

/-- Marks that two letters can have between them and still merge. -/
def isPassedOver (c : Char) : Bool :=
  inRanges
    [(0x34F, 0x34F), (0x17B4, 0x17B5), (0x180B, 0x180D), (0x180F, 0x180F), (0x200D, 0x200D),
     (0xFE00, 0xFE0F), (0xE0100, 0xE01EF)] c

/-- Characters without a column that keep a lam and an alef apart. -/
def partingRanges : List (Nat × Nat) :=
  [(0x605, 0x605), (0x890, 0x891), (0x8E2, 0x8E2), (0x9BE, 0x9BE), (0x9D7, 0x9D7), (0xB3E, 0xB3E),
   (0xB57, 0xB57), (0xBBE, 0xBBE), (0xBD7, 0xBD7), (0xCC0, 0xCC0), (0xCC2, 0xCC2), (0xCC7, 0xCC8),
   (0xCCA, 0xCCB), (0xCD5, 0xCD6), (0xD3E, 0xD3E), (0xD4E, 0xD4E), (0xD57, 0xD57), (0xDCF, 0xDCF),
   (0xDDF, 0xDDF), (0x1160, 0x11FF), (0x1715, 0x1715), (0x1734, 0x1734), (0x180E, 0x180E),
   (0x1B35, 0x1B35), (0x1B3B, 0x1B3B), (0x1B3D, 0x1B3D), (0x1B43, 0x1B44), (0x1BAA, 0x1BAA),
   (0x1BF2, 0x1BF3), (0x200C, 0x200D), (0x2065, 0x2069), (0x302E, 0x302F), (0x3164, 0x3164),
   (0xA8FA, 0xA8FA), (0xA953, 0xA953), (0xA9C0, 0xA9C0), (0xD7B0, 0xD7C6), (0xD7CB, 0xD7FB),
   (0xFFA0, 0xFFA0), (0xFFF0, 0xFFF8), (0x111C0, 0x111C0), (0x111C2, 0x111C3), (0x11235, 0x11235),
   (0x1133E, 0x1133E), (0x1134D, 0x1134D), (0x11357, 0x11357), (0x113B8, 0x113B8),
   (0x113C2, 0x113C2), (0x113C5, 0x113C5), (0x113C7, 0x113C9), (0x113CF, 0x113CF),
   (0x113D1, 0x113D1), (0x114B0, 0x114B0), (0x114BD, 0x114BD), (0x115AF, 0x115AF),
   (0x116B6, 0x116B6), (0x11930, 0x11930), (0x1193D, 0x1193D), (0x1193F, 0x1193F),
   (0x11941, 0x11941), (0x11A84, 0x11A89), (0x11D46, 0x11D46), (0x11F02, 0x11F02),
   (0x11F41, 0x11F41), (0x16FF0, 0x16FF1), (0x1D165, 0x1D166), (0x1D16D, 0x1D172),
   (0xE0000, 0xE0000), (0xE0002, 0xE001F), (0xE0080, 0xE00FF), (0xE01F0, 0xE0FFF)]

/-- Marks that a lam and an alef can have between them and still merge. -/
def isOnLam (c : Char) : Bool :=
  charWidth c == 0 && !inRanges partingRanges c

/-- The joiner of characters. -/
def isJoiner (c : Char) : Bool :=
  hasCode 0x200D c

/-! ### What stands behind a character -/

/-- What the character before it can merge with. -/
inductive Behind where
  /-- Nothing. -/
  | nothing
  /-- The end of a line. -/
  | lineFeed
  /-- An alef. -/
  | alef
  /-- A lamed, after a joiner or not. -/
  | lamed (joined : Bool)
  /-- A Khmer letter that can be written below. -/
  | khmerSubscript
  /-- A Buginese ya, after a joiner or not. -/
  | bugineseYa (joined : Bool)
  /-- A Buginese ya after a joiner and the vowel i. -/
  | bugineseIYa
  /-- A consonant of Tifinagh, after a joiner or not. -/
  | tifinagh (joined : Bool)
  /-- A consonant of Tifinagh after its own joiner. -/
  | tifinaghPair
  /-- A tone letter of Lisu. -/
  | lisuTone
  /-- An Old Turkic i, after a joiner or not. -/
  | turkicI (joined : Bool)
  /-- The vowel sign e of Kirat Rai. -/
  | kiratE
  /-- The vowel sign ai of Kirat Rai. -/
  | kiratAi
  /-- A skin tone. -/
  | skinTone
  /-- One letter of a flag. -/
  | flagLetter
  /-- Some letters of flags. -/
  | flagLetters
  /-- A picture. -/
  | picture
  /-- A joiner and a picture. -/
  | joinedPicture
  /-- A keycap, a joiner and a picture. -/
  | joinedKeycap
  /-- A letter of a flag, a joiner and a picture. -/
  | joinedFlagLetter
  /-- An even number of letters of flags, a joiner and a picture. -/
  | joinedFlags
  /-- An odd number of letters of flags, more than one, a joiner and a picture. -/
  | joinedFlagsAndLetter
  /-- The last of some tags, this many letters before it, a joiner and a picture. -/
  | tagLetters (count : Nat)
  /-- The last of some tags, digits before it, a joiner and a picture. -/
  | tagDigits (count : Nat)
deriving DecidableEq, Repr

/-- Which form of the character before it a selector asks for. -/
inductive Selector where
  /-- There is no selector. -/
  | none
  /-- The picture. -/
  | picture
  /-- The plain form. -/
  | plain
  /-- The form of a quotation mark that is as wide as an ideograph. -/
  | wide
deriving DecidableEq, Repr

/-- What is known of the text behind a character. -/
structure Sequel where
  /-- What the character can merge with. -/
  behind : Behind := .nothing
  /-- The selector right behind the character. -/
  selector : Selector := .none
deriving DecidableEq, Repr

namespace Behind

/-- A letter that merges through any of the marks that are passed over. -/
def isLetter : Behind → Bool
  | .lamed _ | .khmerSubscript | .bugineseYa _ | .bugineseIYa | .tifinagh _ | .tifinaghPair
  | .lisuTone | .turkicI _ | .kiratE | .kiratAi => true
  | _ => false

/-- The same after a joiner. -/
def afterJoiner : Behind → Behind
  | .lamed _ => .lamed true
  | .bugineseYa _ => .bugineseYa true
  | .tifinagh _ => .tifinagh true
  | .turkicI _ => .turkicI true
  | b => b

/-- What is left of it before a selector: letters merge all the same. -/
def beforeSelector (b : Behind) : Behind :=
  if b.isLetter || b == .alef then b else .nothing

/-- A joiner and a picture, which make one picture with the picture before them. -/
def joinsPicture : Behind → Bool
  | .joinedPicture | .joinedKeycap => true
  | _ => false

/-- What is left of it before the selector of a picture. -/
def beforePictureSelector (b : Behind) : Behind :=
  if b.joinsPicture then b else b.beforeSelector

end Behind

/-! ### Columns of a character in a text -/

/-- The sequel of a character that has merged with all that stands behind it. -/
def merged : Sequel := {}

/-- The columns of a character as such, and what it is for the one before it. -/
def standing (c : Char) : Int × Sequel :=
  let sequel : Sequel :=
    if hasCode 0x0A c then { behind := .lineFeed }
    else if hasCode 0x5DC c then { behind := .lamed false }
    else if isAlef c then { behind := .alef }
    else if isKhmerSubscript c then { behind := .khmerSubscript }
    else if hasCode 0x1A10 c then { behind := .bugineseYa false }
    else if isTifinaghConsonant c then { behind := .tifinagh false }
    else if between 0xA4FC 0xA4FD c then { behind := .lisuTone }
    else if hasCode 0xFE01 c then { selector := .wide }
    else if hasCode 0xFE0E c then { selector := .plain }
    else if hasCode 0xFE0F c then { selector := .picture }
    else if hasCode 0x10C03 c then { behind := .turkicI false }
    else if hasCode 0x16D67 c then { behind := .kiratE }
    else if hasCode 0x16D68 c then { behind := .kiratAi }
    else if isFlagLetter c then { behind := .flagLetter }
    else if isSkinTone c then { behind := .skinTone }
    else if isPictograph c then { behind := .picture }
    else {}
  (charWidth c, sequel)

/-- The columns of a character that merges with a letter behind it, if it does. -/
def mergedLetter? (c : Char) : Behind → Option (Int × Sequel)
  | .alef =>
    if isLam c then some (0, merged)
    else if isOnLam c then some (0, { behind := .alef })
    else none
  | .lamed true => if hasCode 0x5D0 c then some (0, merged) else none
  | .khmerSubscript => if hasCode 0x17D2 c then some (-1, merged) else none
  | .bugineseYa true => if hasCode 0x1A17 c then some (0, { behind := .bugineseIYa }) else none
  | .bugineseIYa => if hasCode 0x1A15 c then some (0, merged) else none
  | .tifinagh joined =>
    if isTifinaghJoiner c then some (1, { behind := .tifinaghPair })
    else if joined && isTifinaghConsonant c then some (0, merged)
    else none
  | .tifinaghPair => if isTifinaghConsonant c then some (-1, merged) else none
  | .lisuTone => if between 0xA4F8 0xA4FB c then some (0, merged) else none
  | .turkicI true => if hasCode 0x10C32 c then some (0, merged) else none
  | .kiratE =>
    if hasCode 0x16D63 c || hasCode 0x16D69 c then some (0, merged)
    else if hasCode 0x16D67 c then some (0, { behind := .kiratAi })
    else if hasCode 0x16D68 c then some (1, { behind := .kiratE })
    else none
  | .kiratAi => if hasCode 0x16D63 c then some (0, merged) else none
  | _ => none

/-- A tag that stands for a small letter. -/
def isTagLetter (c : Char) : Bool :=
  between 0xE0061 0xE007A c

/-- A tag that stands for a digit. -/
def isTagDigit (c : Char) : Bool :=
  between 0xE0030 0xE0039 c

/-- The flag to which tags belong. -/
def isTaggedFlag (c : Char) : Bool :=
  hasCode 0x1F3F4 c

/-- The columns of a character that merges with a picture behind it, if it does. -/
def mergedPicture? (c : Char) : Behind → Option (Int × Sequel)
  | .skinTone =>
    if isTintable c then some (0, { behind := .picture })
    else if isJoiner c then some (0, { behind := .joinedPicture })
    else none
  | .flagLetter => if isFlagLetter c then some (1, { behind := .flagLetters }) else none
  | .flagLetters =>
    if isFlagLetter c then some (1, { behind := .flagLetters })
    else if isJoiner c then some (0, { behind := .joinedPicture })
    else none
  | .picture => if isJoiner c then some (0, { behind := .joinedPicture }) else none
  | .joinedPicture =>
    if hasCode 0x20E3 c then some (0, { behind := .joinedKeycap })
    else if isFlagLetter c then some (1, { behind := .joinedFlagLetter })
    else if isSkinTone c then some (0, { behind := .skinTone })
    else if hasCode 0xE007F c then some (0, { behind := .tagLetters 0 })
    else if isPictograph c then some (0, { behind := .picture })
    else none
  | .joinedFlagLetter =>
    if isFlagLetter c then some (-1, { behind := .joinedFlags }) else none
  | .joinedFlagsAndLetter =>
    if isFlagLetter c then some (-1, { behind := .joinedFlags })
    else if isJoiner c then some (0, { behind := .joinedPicture })
    else none
  | .joinedFlags =>
    if isFlagLetter c then some (3, { behind := .joinedFlagsAndLetter })
    else if isJoiner c then some (0, { behind := .joinedPicture })
    else none
  | .tagLetters count =>
    if isTagLetter c && decide (count < 6) then some (0, { behind := .tagLetters (count + 1) })
    else if isTagDigit c && decide (count < 5) then some (0, { behind := .tagDigits 1 })
    else if isTaggedFlag c && decide (3 ≤ count) then some (0, { behind := .picture })
    else none
  | .tagDigits count =>
    if isTagDigit c && decide (count < 3) then some (0, { behind := .tagDigits (count + 1) })
    else if isTaggedFlag c && count == 3 then some (0, { behind := .picture })
    else none
  | _ => none

/-- The columns of a selector or of a mark that letters merge through, with something behind it. -/
def passedOver? (c : Char) (b : Behind) : Option (Int × Sequel) :=
  if b == .nothing then none
  else if hasCode 0xFE0F c then
    some (0, { behind := b.beforePictureSelector, selector := .picture })
  else if hasCode 0xFE0E c then some (0, { behind := b.beforeSelector, selector := .plain })
  else if hasCode 0xFE01 c then some (0, { behind := b.beforeSelector, selector := .wide })
  else if b.isLetter && isJoiner c then some (0, { behind := b.afterJoiner })
  else if b.isLetter && isPassedOver c then some (0, { behind := b })
  else none

/-- The columns of a character that has no selector behind it. -/
def unselected (c : Char) (b : Behind) : Int × Sequel :=
  if c.toNat ≤ 0xA0 then
    if hasCode 0x0D c && b == .lineFeed then (0, merged) else standing c
  else
    ((passedOver? c b).orElse fun _ =>
      (mergedLetter? c b).orElse fun _ => mergedPicture? c b).getD (standing c)

/-- A quotation mark with a form as wide as an ideograph. -/
def isQuotationMark (c : Char) : Bool :=
  between 0x2018 0x2019 c || between 0x201C 0x201D c

/-- The columns of a character before its sequel, and the sequel with it. -/
def widthBefore (c : Char) (s : Sequel) : Int × Sequel :=
  match s.selector with
  | .none => unselected c s.behind
  | .picture =>
    if hasTwoForms c then (if s.behind.joinsPicture then 0 else 2, { behind := .picture })
    else unselected c s.behind.beforeSelector
  | .plain => if narrowsInPlainForm c then (1, merged) else unselected c s.behind
  | .wide => if isQuotationMark c then (2, merged) else unselected c s.behind

/-- Number of columns of a line of text. -/
def width (cs : List Char) : Nat :=
  (cs.foldr (fun c (total, sequel) =>
    let (columns, sequel) := widthBefore c sequel
    (total + columns, sequel)) ((0 : Int), merged)).1.toNat

end NodeReport.Text

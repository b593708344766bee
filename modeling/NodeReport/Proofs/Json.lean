import Mathlib.Data.List.TakeWhile
import NodeReport.Json
import NodeReport.Number.Reading
import NodeReport.Proofs.Number.Digits
import NodeReport.Proofs.Text.Scanner
import NodeReport.Text.UrlEncoding

/-! # JSON read back

  A reader of JSON that knows nothing of the layout in which a document was written. A scanner splits
  the characters into tokens: brackets, commas, colons, strings without their escapes, and the values
  that are written as one word or number. From the tokens a reader with a stack of open arrays and
  objects makes the value. It is strict: there is no comma behind the last item, no zero in front of
  other digits, no bare control character in a string.

  Every document without floating-point numbers is read as the value that it was written for
  (`Json.read?_render`).
-/

namespace NodeReport

/-! ### Numbers -/

namespace Json

/-- A number: digits without a zero in front of others, after at most a minus sign, and perhaps a
    point with digits behind it or an exponent. -/
def number? (cs : List Char) : Option Json :=
  let negative := cs.head? == some '-'
  let rest := if negative then cs.drop 1 else cs
  let whole := rest.takeWhile Char.isDigit
  let places := rest.dropWhile Char.isDigit
  if whole.isEmpty || (whole.head? == some '0' && 1 < whole.length) then none
  else if places.isEmpty then some (.integer (Binary64.signed negative (digitsValue whole)))
  else if places.head? == some '.' && !(places.drop 1).head?.any Char.isDigit then none
  else (readBinary64? cs).map .real

/-- A character that numbers are written with. -/
def isNumberChar (c : Char) : Bool :=
  c.isDigit || c == '-' || c == '+' || c == '.' || c == 'e' || c == 'E'

/-- The digits of a number have no zero in front, unless it is zero. -/
theorem head?_decimalDigits {n : Nat} (h : 1 < (decimalDigits n).length) :
    (decimalDigits n).head? ≠ some '0' := by
  intro hhead
  obtain ⟨ds, hds⟩ : ∃ ds, decimalDigits n = '0' :: ds := by
    cases hdigits : decimalDigits n with
    | nil => rw [hdigits] at hhead; cases hhead
    | cons c ds =>
      rw [hdigits] at hhead
      cases hhead
      exact ⟨ds, rfl⟩
  have hlen : (decimalDigits n).length = ds.length + 1 := by rw [hds, List.length_cons]
  -- without the zero there are digits enough, one less than there are
  have hvalue : n = digitsValue ds := by
    have hall := digitsValue_decimalDigits n
    rw [hds, digitsValue_cons] at hall
    simpa using hall.symm
  have hdigit : ∀ c ∈ ds, c.isDigit = true := fun c hc =>
    isDigit_of_mem_decimalDigits (hds ▸ List.mem_cons_of_mem _ hc)
  have hlt : n < pow10 ds.length := by
    rw [hvalue]
    exact digitsValue_lt hdigit
  have hle := (length_decimalDigits_le_iff (by omega)).mpr hlt
  omega

theorem number?_integerText (n : Int) : number? (integerText n).toList = some (.integer n) := by
  have hdigits : ∀ c ∈ decimalDigits n.natAbs, c.isDigit = true := fun c hc =>
    isDigit_of_mem_decimalDigits hc
  have htake : (decimalDigits n.natAbs).takeWhile Char.isDigit = decimalDigits n.natAbs :=
    List.takeWhile_eq_self_iff.mpr hdigits
  have hdrop : (decimalDigits n.natAbs).dropWhile Char.isDigit = [] :=
    List.dropWhile_eq_nil_iff.mpr hdigits
  have hzero : (decimalDigits n.natAbs).isEmpty = false ∧
      ((decimalDigits n.natAbs).head? == some '0' &&
        decide (1 < (decimalDigits n.natAbs).length)) = false := by
    refine ⟨by simpa using decimalDigits_ne_nil n.natAbs, ?_⟩
    rw [Bool.and_eq_false_iff]
    by_cases h : 1 < (decimalDigits n.natAbs).length
    · exact .inl (by simpa using head?_decimalDigits h)
    · exact .inr (by simpa using h)
  unfold integerText number?
  by_cases hneg : n < 0
  · have hsigned : Binary64.signed true n.natAbs = n := by
      show -((n.natAbs : Nat) : Int) = n
      omega
    simp [hneg, htake, hdrop, hzero.1, hzero.2, hsigned]
  · have hsigned : Binary64.signed false n.natAbs = n := by
      show ((n.natAbs : Nat) : Int) = n
      omega
    have hsign : ((decimalDigits n.natAbs).head? == some '-') = false := by
      cases hcons : decimalDigits n.natAbs with
      | nil => rfl
      | cons c ds =>
        have hc := hdigits c (by rw [hcons]; exact List.mem_cons_self)
        have hne : c ≠ '-' := by
          rintro rfl
          exact absurd hc (by decide)
        simpa using hne
    simp [hneg, hsign, htake, hdrop, hzero.1, hzero.2, hsigned]

end Json

/-! ### Tokens -/

/-- A piece of a JSON document. -/
inductive JsonToken where
  | openArray
  | closeArray
  | openObject
  | closeObject
  | comma
  | colon
  /-- A string, without its escapes. -/
  | string (s : String)
  /-- A value that is one word or number. -/
  | scalar (v : Json)

/-- Where a reader of JSON stands, with what it has read of the piece that it is in. -/
inductive JsonPlace where
  /-- Between two pieces. -/
  | between
  /-- In a word. -/
  | word (cs : List Char)
  /-- In a number. -/
  | number (cs : List Char)
  /-- In a string. -/
  | string (read : List Char)
  /-- In a string, behind a backslash. -/
  | escape (read : List Char)
  /-- In the digits of a code unit, of which as many are left after the next one. The unit may be the
      second of two. -/
  | unit (read : List Char) (high : Option Nat) (left : Nat) (value : Nat)
  /-- Behind the first of two code units. -/
  | pair (read : List Char) (high : Nat)
  /-- Behind the first of two code units and a backslash. -/
  | pairEscape (read : List Char) (high : Nat)

namespace JsonPlace

/-- The value of a word. -/
def wordValue? (cs : List Char) : Option Json :=
  if cs = "null".toList then some .null
  else if cs = "true".toList then some (.boolean true)
  else if cs = "false".toList then some (.boolean false)
  else none

/-- What stands for a character behind a backslash. -/
def escaped? : Char → Option Char
  | '"' => some '"'
  | '\\' => some '\\'
  | '/' => some '/'
  | 'b' => some '\x08'
  | 'f' => some '\x0c'
  | 'n' => some '\n'
  | 'r' => some '\r'
  | 't' => some '\t'
  | _ => none

/-- What the first character of a piece completes, and where it leads. -/
def start (c : Char) : Option (List JsonToken × JsonPlace) :=
  if c = ' ' ∨ c = '\n' ∨ c = '\r' ∨ c = '\t' then some ([], between)
  else if c = '[' then some ([.openArray], between)
  else if c = ']' then some ([.closeArray], between)
  else if c = '\x7b' then some ([.openObject], between)
  else if c = '\x7d' then some ([.closeObject], between)
  else if c = ',' then some ([.comma], between)
  else if c = ':' then some ([.colon], between)
  else if c = '"' then some ([], string [])
  else if c = '-' ∨ c.isDigit then some ([], number [c])
  else if c.isAlpha then some ([], word [c])
  else none

/-- Where a code unit leads. Units from `D800` on come in pairs, which stand for one character. -/
def afterUnit (read : List Char) (high : Option Nat) (n : Nat) :
    Option (List JsonToken × JsonPlace) :=
  match high with
  | none =>
    if 0xD800 ≤ n ∧ n < 0xDC00 then some ([], pair read n)
    else if 0xDC00 ≤ n ∧ n < 0xE000 then none
    else some ([], string (read ++ [Char.ofNat n]))
  | some high =>
    if 0xDC00 ≤ n ∧ n < 0xE000 then
      some ([], string (read ++ [Char.ofNat (0x10000 + (high - 0xD800) * 0x400 + (n - 0xDC00))]))
    else none

/-- What a character completes, and where it leads. -/
def step : JsonPlace → Char → Option (List JsonToken × JsonPlace)
  | between, c => start c
  | word cs, c =>
    match wordValue? (cs ++ [c]) with
    | some v => some ([.scalar v], between)
    | none => if c.isAlpha then some ([], word (cs ++ [c])) else none
  | number cs, c =>
    -- nothing marks the end of a number but the piece behind it
    if Json.isNumberChar c then some ([], number (cs ++ [c]))
    else (Json.number? cs).bind fun v => (start c).map fun (ts, next) => (.scalar v :: ts, next)
  | string read, c =>
    if c = '"' then some ([.string (String.ofList read)], between)
    else if c = '\\' then some ([], escape read)
    else if c.toNat < 32 then none
    else some ([], string (read ++ [c]))
  | escape read, c =>
    if c = 'u' then some ([], unit read none 3 0)
    else (escaped? c).map fun d => ([], string (read ++ [d]))
  | unit read high left value, c =>
    (Text.hexValue? c).bind fun d =>
      match left with
      | 0 => afterUnit read high (16 * value + d)
      | left + 1 => some ([], unit read high left (16 * value + d))
  | pair read high, c => if c = '\\' then some ([], pairEscape read high) else none
  | pairEscape read high, c => if c = 'u' then some ([], unit read (some high) 3 0) else none

end JsonPlace

/-- The scanner of JSON documents, which may end behind a number. -/
def jsonScanner : Text.Scanner JsonPlace JsonToken where
  step := JsonPlace.step
  finish
    | .between => some []
    | .number cs => (Json.number? cs).map fun v => [.scalar v]
    | _ => none

/-! ### Values -/

/-- An array or object of which a part has been read. -/
inductive JsonFrame where
  /-- An array with the items before the one that is being read. -/
  | items (before : List Json)
  /-- An object with the fields before the one that is being read, and its name. -/
  | fields (before : List (String × Json)) (name : String)

/-- What a reader of tokens expects, within the arrays and objects that are open. -/
inductive JsonState where
  /-- A value. -/
  | value (stack : List JsonFrame)
  /-- The name of a field, behind the fields of an object. -/
  | name (fields : List (String × Json)) (stack : List JsonFrame)
  /-- The colon behind the name of a field. -/
  | colon (fields : List (String × Json)) (name : String) (stack : List JsonFrame)
  /-- A comma or the end, behind the items of an array. -/
  | behindItems (items : List Json) (stack : List JsonFrame)
  /-- A comma or the end, behind the fields of an object. -/
  | behindFields (fields : List (String × Json)) (stack : List JsonFrame)
  /-- Nothing more. -/
  | complete (v : Json)

namespace JsonState

/-- What is expected behind a value. -/
def behind (v : Json) : List JsonFrame → JsonState
  | [] => complete v
  | .items before :: stack => behindItems (before ++ [v]) stack
  | .fields before field :: stack => behindFields (before ++ [(field, v)]) stack

/-- What is expected behind a token. -/
def step : JsonState → JsonToken → Option JsonState
  | value stack, .scalar v => some (behind v stack)
  | value stack, .string s => some (behind (.string s) stack)
  | value stack, .openArray => some (value (.items [] :: stack))
  | value stack, .openObject => some (name [] stack)
  | value (.items [] :: stack), .closeArray => some (behind (.array []) stack)
  | name fields stack, .string s => some (colon fields s stack)
  | name [] stack, .closeObject => some (behind (.object []) stack)
  | colon fields s stack, .colon => some (value (.fields fields s :: stack))
  | behindItems items stack, .comma => some (value (.items items :: stack))
  | behindItems items stack, .closeArray => some (behind (.array items) stack)
  | behindFields fields stack, .comma => some (name fields stack)
  | behindFields fields stack, .closeObject => some (behind (.object fields) stack)
  | _, _ => none

/-- The value, if nothing more is expected. -/
def result? : JsonState → Option Json
  | complete v => some v
  | _ => none

end JsonState

namespace Json

/-- The value that a document is read as. -/
def read? (s : String) : Option Json :=
  (jsonScanner.scan .between s.toList).bind fun tokens =>
    (tokens.foldlM JsonState.step (.value [])).bind JsonState.result?

/-! ### Tokens of a value -/

mutual

/-- The tokens of a value. -/
def tokens : Json → List JsonToken
  | .null => [.scalar .null]
  | .boolean b => [.scalar (.boolean b)]
  | .integer n => [.scalar (.integer n)]
  | .real x => [.scalar (.real x)]
  | .string s => [.string s]
  | .array items =>
    match items with
    | [] => [.openArray, .closeArray]
    | first :: rest => .openArray :: (tokens first ++ (itemTokens rest ++ [.closeArray]))
  | .object fields =>
    match fields with
    | [] => [.openObject, .closeObject]
    | (name, value) :: rest =>
      .openObject :: .string name :: .colon :: (tokens value ++ (fieldTokens rest ++ [.closeObject]))

/-- The tokens of the further items of an array. -/
def itemTokens : List Json → List JsonToken
  | [] => []
  | item :: rest => .comma :: (tokens item ++ itemTokens rest)

/-- The tokens of the further fields of an object. -/
def fieldTokens : List (String × Json) → List JsonToken
  | [] => []
  | (name, value) :: rest => .comma :: .string name :: .colon :: (tokens value ++ fieldTokens rest)

end

/-- A value without floating-point numbers. -/
inductive IsExact : Json → Prop where
  | null : IsExact .null
  | boolean (b : Bool) : IsExact (.boolean b)
  | integer (n : Int) : IsExact (.integer n)
  | string (s : String) : IsExact (.string s)
  | array {items : List Json} (h : ∀ v ∈ items, IsExact v) : IsExact (.array items)
  | object {fields : List (String × Json)} (h : ∀ f ∈ fields, IsExact f.2) :
    IsExact (.object fields)

/-! ### Tokens to a value -/

section

open JsonState

theorem foldlM_append {state next : JsonState} {ts : List JsonToken}
    (h : ts.foldlM step state = some next) (us : List JsonToken) :
    (ts ++ us).foldlM step state = us.foldlM step next := by
  rw [List.foldlM_append, h]
  rfl

/-- Behind the items of an array that are read the further ones are added. -/
theorem foldlM_itemTokens {items : List Json} (h : ∀ v ∈ items, ∀ stack,
      v.tokens.foldlM step (value stack) = some (behind v stack))
    (before : List Json) (stack : List JsonFrame) :
    (itemTokens items).foldlM step (behindItems before stack) =
      some (behindItems (before ++ items) stack) := by
  induction items generalizing before with
  | nil => simp [itemTokens]
  | cons item items ih =>
    have hitem := h item List.mem_cons_self (.items before :: stack)
    have hrest := ih (fun v hv => h v (List.mem_cons_of_mem _ hv)) (before ++ [item])
    rw [List.append_assoc] at hrest
    show (item.tokens ++ itemTokens items).foldlM step (value (.items before :: stack)) = _
    rw [foldlM_append hitem]
    exact hrest

/-- Behind the fields of an object that are read the further ones are added. -/
theorem foldlM_fieldTokens {fields : List (String × Json)} (h : ∀ f ∈ fields, ∀ stack,
      f.2.tokens.foldlM step (value stack) = some (behind f.2 stack))
    (before : List (String × Json)) (stack : List JsonFrame) :
    (fieldTokens fields).foldlM step (behindFields before stack) =
      some (behindFields (before ++ fields) stack) := by
  induction fields generalizing before with
  | nil => simp [fieldTokens]
  | cons field fields ih =>
    have hvalue := h field List.mem_cons_self (.fields before field.1 :: stack)
    have hrest := ih (fun f hf => h f (List.mem_cons_of_mem _ hf)) (before ++ [field])
    rw [List.append_assoc] at hrest
    show (field.2.tokens ++ fieldTokens fields).foldlM step
      (value (.fields before field.1 :: stack)) = _
    rw [foldlM_append hvalue]
    exact hrest

/-- The tokens of a value are read as the value, whatever is open. -/
theorem foldlM_tokens {v : Json} (h : v.IsExact) (stack : List JsonFrame) :
    v.tokens.foldlM step (value stack) = some (behind v stack) := by
  induction h generalizing stack with
  | null => rfl
  | boolean b => rfl
  | integer n => rfl
  | string s => rfl
  | @array items _ ih =>
    cases items with
    | nil => rfl
    | cons first rest =>
      -- the first item is read into the array that is open, and the further ones behind it
      have hfirst := ih first List.mem_cons_self (.items [] :: stack)
      have hrest := foldlM_itemTokens (fun v hv => ih v (List.mem_cons_of_mem _ hv)) [first] stack
      show (first.tokens ++ (itemTokens rest ++ [JsonToken.closeArray])).foldlM step
        (value (.items [] :: stack)) = _
      rw [foldlM_append hfirst]
      exact foldlM_append hrest [.closeArray]
  | @object fields _ ih =>
    cases fields with
    | nil => rfl
    | cons first rest =>
      have hfirst := ih first List.mem_cons_self (.fields [] first.1 :: stack)
      have hrest := foldlM_fieldTokens (fun f hf => ih f (List.mem_cons_of_mem _ hf)) [first] stack
      show (first.2.tokens ++ (fieldTokens rest ++ [JsonToken.closeObject])).foldlM step
        (value (.fields [] first.1 :: stack)) = _
      rw [foldlM_append hfirst]
      exact foldlM_append hrest [.closeObject]

end

/-! ### Characters to tokens -/

open Text.Scanner (steps_cons steps_append steps_gather scan_append)

/-- No number goes on with these characters. -/
def EndsNumber (rest : List Char) : Prop :=
  ∀ c, rest.head? = some c → isNumberChar c = false

/-- Characters that are split into tokens, whatever is behind them and does not make a number
    longer. -/
def ScansAs (cs : List Char) (ts : List JsonToken) : Prop :=
  ∀ rest, EndsNumber rest →
    jsonScanner.scan .between (cs ++ rest) = (jsonScanner.scan .between rest).map (ts ++ ·)

theorem EndsNumber.append {as bs : List Char} (has : EndsNumber as) (hbs : EndsNumber bs) :
    EndsNumber (as ++ bs) := by
  cases as with
  | nil => exact hbs
  | cons c as => exact has

theorem endsNumber_cons {c : Char} (h : isNumberChar c = false) (cs : List Char) :
    EndsNumber (c :: cs) := by
  intro d hd
  cases hd
  exact h

theorem ScansAs.of_steps {cs : List Char} {ts : List JsonToken}
    (h : jsonScanner.steps .between cs = some (ts, .between)) : ScansAs cs ts :=
  fun rest _ => scan_append h rest

theorem ScansAs.cons_steps {as bs : List Char} {ts us : List JsonToken}
    (has : jsonScanner.steps .between as = some (ts, .between)) (hbs : ScansAs bs us) :
    ScansAs (as ++ bs) (ts ++ us) := by
  intro rest hrest
  rw [List.append_assoc, scan_append has, hbs rest hrest, Option.map_map]
  simp [Function.comp_def]

theorem ScansAs.append {as bs : List Char} {ts us : List JsonToken} (has : ScansAs as ts)
    (hbs : ScansAs bs us) (hend : EndsNumber bs) : ScansAs (as ++ bs) (ts ++ us) := by
  intro rest hrest
  rw [List.append_assoc, has _ (hend.append hrest), hbs rest hrest, Option.map_map]
  simp [Function.comp_def]

/-! #### Strings -/

theorem hexValue?_digitChar {d : Nat} (h : d < 16) : Text.hexValue? (Nat.digitChar d) = some d := by
  have hall : ∀ d : Fin 16, Text.hexValue? (Nat.digitChar d.val) = some d.val := by decide
  exact hall ⟨d, h⟩

/-- A control character is read back from its code unit. -/
theorem steps_unit {n : Nat} (h : n < 32) (read : List Char) :
    jsonScanner.steps (.string read)
        ['\\', 'u', '0', '0', Nat.digitChar (n / 16), Nat.digitChar (n % 16)] =
      some ([], .string (read ++ [Char.ofNat n])) := by
  have hhigh := hexValue?_digitChar (show n / 16 < 16 by omega)
  have hlow := hexValue?_digitChar (show n % 16 < 16 by omega)
  have hstart : jsonScanner.steps (.string read) ['\\', 'u', '0', '0'] =
      some ([], .unit read none 1 0) := rfl
  have hfirst : jsonScanner.step (.unit read none 1 0) (Nat.digitChar (n / 16)) =
      some ([], .unit read none 0 (n / 16)) := by
    show (Text.hexValue? _).bind _ = _
    rw [hhigh]
    simp
  have hsecond : jsonScanner.step (.unit read none 0 (n / 16)) (Nat.digitChar (n % 16)) =
      some ([], .string (read ++ [Char.ofNat n])) := by
    show (Text.hexValue? _).bind _ = _
    have hvalue : 16 * (n / 16) + n % 16 = n := by omega
    rw [hlow, Option.bind_some]
    show JsonPlace.afterUnit read none (16 * (n / 16) + n % 16) = _
    rw [hvalue]
    unfold JsonPlace.afterUnit
    simp only
    rw [if_neg (by omega), if_neg (by omega)]
  exact steps_append hstart (steps_cons hfirst (steps_cons hsecond rfl))

/-- A character is read back from what is written for it. -/
theorem steps_escapeChar (read : List Char) (c : Char) :
    jsonScanner.steps (.string read) (escapeChar c) = some ([], .string (read ++ [c])) := by
  have hchar : Char.ofNat c.toNat = c := c.ofNat_toNat
  unfold escapeChar
  by_cases hquote : c = '"'
  · rw [if_pos hquote, hquote]
    rfl
  by_cases hslash : c = '\\'
  · rw [if_neg hquote, if_pos hslash, hslash]
    rfl
  by_cases hline : c = '\n'
  · rw [if_neg hquote, if_neg hslash, if_pos hline, hline]
    rfl
  by_cases hreturn : c = '\r'
  · rw [if_neg hquote, if_neg hslash, if_neg hline, if_pos hreturn, hreturn]
    rfl
  by_cases htab : c = '\t'
  · rw [if_neg hquote, if_neg hslash, if_neg hline, if_neg hreturn, if_pos htab, htab]
    rfl
  rw [if_neg hquote, if_neg hslash, if_neg hline, if_neg hreturn, if_neg htab]
  by_cases hback : c.toNat = 8
  · rw [if_pos hback, ← hchar, hback]
    rfl
  by_cases hfeed : c.toNat = 12
  · rw [if_neg hback, if_pos hfeed, ← hchar, hfeed]
    rfl
  rw [if_neg hback, if_neg hfeed]
  by_cases hcontrol : c.toNat < 32
  · have hunit := steps_unit hcontrol read
    rw [hchar] at hunit
    rw [if_pos hcontrol]
    exact hunit
  · have hstep : jsonScanner.step (.string read) c = some ([], .string (read ++ [c])) := by
      show JsonPlace.step (.string read) c = _
      unfold JsonPlace.step
      simp only
      rw [if_neg hquote, if_neg hslash, if_neg hcontrol]
    rw [if_neg hcontrol]
    exact steps_cons hstep rfl

/-- A string is read back. -/
theorem steps_stringChars (s : String) :
    jsonScanner.steps .between (stringChars s) = some ([.string s], .between) := by
  have hchars : ∀ (cs read : List Char), jsonScanner.steps (.string read) (cs.flatMap escapeChar) =
      some ([], .string (read ++ cs)) := by
    intro cs
    induction cs with
    | nil =>
      intro read
      rw [List.append_nil]
      rfl
    | cons c cs ih =>
      intro read
      have hrest := ih (read ++ [c])
      rw [List.append_assoc] at hrest
      rw [List.flatMap_cons]
      exact steps_append (steps_escapeChar read c) hrest
  have hopen : jsonScanner.step .between '"' = some ([], .string []) := rfl
  have hclose : jsonScanner.steps (.string s.toList) ['"'] = some ([.string s], .between) := by
    show some ([JsonToken.string (String.ofList s.toList)] ++ [], _) = _
    rw [String.ofList_toList]
    rfl
  exact steps_cons hopen (steps_append (hchars s.toList []) hclose)

/-! #### Numbers -/

/-- A number ends where no character of it follows. -/
theorem scan_number {cs : List Char} {v : Json} (h : number? cs = some v) {rest : List Char}
    (hrest : EndsNumber rest) : jsonScanner.scan (.number cs) rest =
      (jsonScanner.scan .between rest).map (.scalar v :: ·) := by
  cases rest with
  | nil =>
    show (number? cs).map _ = some [JsonToken.scalar v]
    rw [h]
    rfl
  | cons c rest =>
    have hstep : jsonScanner.step (.number cs) c =
        (JsonPlace.start c).map fun (ts, next) => (.scalar v :: ts, next) := by
      show JsonPlace.step (.number cs) c = _
      unfold JsonPlace.step
      simp only
      rw [hrest c rfl, h]
      rfl
    -- the character behind the number is taken as if the reader stood between two pieces
    unfold Text.Scanner.scan
    rw [hstep]
    show _ = ((JsonPlace.start c).bind _).map _
    cases JsonPlace.start c with
    | none => rfl
    | some p => simp [Function.comp_def]

theorem start_of_isDigit {c : Char} (h : c.isDigit = true) :
    JsonPlace.start c = some ([], .number [c]) := by
  have hne : ∀ d : Char, d.isDigit = false → c ≠ d := by
    rintro d hd rfl
    rw [h] at hd
    cases hd
  unfold JsonPlace.start
  rw [if_neg (by simp [hne]), if_neg (hne _ (by decide)), if_neg (hne _ (by decide)),
    if_neg (hne _ (by decide)), if_neg (hne _ (by decide)), if_neg (hne _ (by decide)),
    if_neg (hne _ (by decide)), if_neg (hne _ (by decide)), if_pos (.inr h)]

theorem scansAs_integerText (n : Int) :
    ScansAs (integerText n).toList [.scalar (.integer n)] := by
  intro rest hrest
  have hdigits : ∀ c ∈ decimalDigits n.natAbs, c.isDigit = true := fun c hc =>
    isDigit_of_mem_decimalDigits hc
  -- the first character opens the number, and the others belong to it
  obtain ⟨c, cs, hcons, hc, hcs⟩ : ∃ c cs, (integerText n).toList = c :: cs ∧
      (c = '-' ∨ c.isDigit = true) ∧ ∀ d ∈ cs, d.isDigit = true := by
    unfold integerText
    split
    · exact ⟨'-', _, String.toList_ofList, .inl rfl, hdigits⟩
    · cases hcons : decimalDigits n.natAbs with
      | nil => exact absurd hcons (decimalDigits_ne_nil _)
      | cons c cs =>
        rw [hcons] at hdigits
        exact ⟨c, cs, String.toList_ofList, .inr (hdigits c List.mem_cons_self),
          fun d hd => hdigits d (List.mem_cons_of_mem _ hd)⟩
  have hstart : jsonScanner.step .between c = some ([], .number [c]) := by
    rcases hc with rfl | hc
    · rfl
    · exact start_of_isDigit hc
  have hgather : jsonScanner.steps (.number [c]) cs = some ([], .number ([c] ++ cs)) := by
    refine steps_gather JsonPlace.number ?_ [c]
    intro read d hd
    have hnumber : isNumberChar d = true := by
      unfold isNumberChar
      rw [hcs d hd]
      rfl
    exact if_pos hnumber
  have hsteps : jsonScanner.steps .between (c :: cs) = some ([], .number (c :: cs)) :=
    steps_cons hstart hgather
  have hread := number?_integerText n
  rw [hcons] at hread
  rw [hcons, scan_append hsteps, scan_number hread hrest, Option.map_map]
  rfl

/-! #### Values -/

theorem steps_newLine (level : Nat) :
    jsonScanner.steps .between (newLine level) = some ([], .between) := by
  have hspaces : ∀ k, jsonScanner.steps .between (List.replicate k ' ') = some ([], .between) := by
    intro k
    induction k with
    | zero => rfl
    | succ k ih =>
      have hspace : jsonScanner.step .between ' ' = some ([], .between) := rfl
      rw [List.replicate_succ]
      exact steps_cons hspace ih
  have hline : jsonScanner.step .between '\n' = some ([], .between) := rfl
  exact steps_cons hline (hspaces _)

theorem endsNumber_newLine (level : Nat) (cs : List Char) : EndsNumber (newLine level ++ cs) :=
  endsNumber_cons (by decide) _

theorem endsNumber_itemChars (level : Nat) (items : List Json) :
    EndsNumber (itemChars level items) := by
  cases items with
  | nil =>
    intro c hc
    cases hc
  | cons item items => exact endsNumber_cons (by decide) _

theorem endsNumber_fieldChars (level : Nat) (fields : List (String × Json)) :
    EndsNumber (fieldChars level fields) := by
  cases fields with
  | nil =>
    intro c hc
    cases hc
  | cons field fields => exact endsNumber_cons (by decide) _

/-- One character that is a token of its own, and a new line behind it. -/
theorem steps_cons_newLine {c : Char} {t : JsonToken}
    (h : jsonScanner.step .between c = some ([t], .between)) (level : Nat) :
    jsonScanner.steps .between (c :: newLine level) = some ([t], .between) :=
  steps_cons h (steps_newLine level)

/-- A new line and one character that is a token of its own. -/
theorem scansAs_newLine_append {c : Char} {t : JsonToken}
    (h : jsonScanner.step .between c = some ([t], .between)) (level : Nat) :
    ScansAs (newLine level ++ [c]) [t] :=
  .of_steps (steps_append (steps_newLine level) (steps_cons h rfl))

/-- The name of a field with the colon, on a line of its own behind one character. -/
theorem steps_fieldName {c : Char} {t : JsonToken}
    (h : jsonScanner.step .between c = some ([t], .between)) (level : Nat) (name : String) :
    jsonScanner.steps .between (c :: newLine level ++ (stringChars name ++ [':', ' '])) =
      some ([t, .string name, .colon], .between) := by
  have hcolon : jsonScanner.steps .between [':', ' '] = some ([.colon], .between) := rfl
  exact steps_append (steps_cons_newLine h level) (steps_append (steps_stringChars name) hcolon)

theorem scansAs_itemChars {level : Nat} {items : List Json}
    (h : ∀ v ∈ items, ScansAs (chars level v) v.tokens) :
    ScansAs (itemChars level items) (itemTokens items) := by
  induction items with
  | nil => exact .of_steps rfl
  | cons item items ih =>
    have hcomma : jsonScanner.step .between ',' = some ([.comma], .between) := rfl
    have hrest := ih fun v hv => h v (List.mem_cons_of_mem _ hv)
    have hitem := (h item List.mem_cons_self).append hrest (endsNumber_itemChars level items)
    have hchars : itemChars level (item :: items) =
        ',' :: newLine level ++ (chars level item ++ itemChars level items) := by
      rw [itemChars, List.append_assoc]
    rw [hchars]
    exact .cons_steps (steps_cons_newLine hcomma level) hitem

theorem scansAs_fieldChars {level : Nat} {fields : List (String × Json)}
    (h : ∀ f ∈ fields, ScansAs (chars level f.2) f.2.tokens) :
    ScansAs (fieldChars level fields) (fieldTokens fields) := by
  induction fields with
  | nil => exact .of_steps rfl
  | cons field fields ih =>
    obtain ⟨name, value⟩ := field
    have hcomma : jsonScanner.step .between ',' = some ([.comma], .between) := rfl
    have hrest := ih fun f hf => h f (List.mem_cons_of_mem _ hf)
    have hvalue := (h (name, value) List.mem_cons_self).append hrest
      (endsNumber_fieldChars level fields)
    have hchars : fieldChars level ((name, value) :: fields) =
        (',' :: newLine level ++ (stringChars name ++ [':', ' '])) ++
          (chars level value ++ fieldChars level fields) := by
      rw [fieldChars]
      simp only [List.append_assoc, List.cons_append, List.nil_append]
    rw [hchars]
    exact .cons_steps (steps_fieldName hcomma level name) hvalue

/-- The characters of a value are split into its tokens. -/
theorem scansAs_chars {v : Json} (h : v.IsExact) (level : Nat) :
    ScansAs (chars level v) v.tokens := by
  induction h generalizing level with
  | null => exact .of_steps rfl
  | boolean b => cases b <;> exact .of_steps rfl
  | integer n => exact scansAs_integerText n
  | string s => exact .of_steps (steps_stringChars s)
  | @array items _ ih =>
    cases items with
    | nil => exact .of_steps rfl
    | cons first rest =>
      -- each item may be a number, and is followed by a comma or by a new line
      have hopen : jsonScanner.step .between '[' = some ([.openArray], .between) := rfl
      have hclose : jsonScanner.step .between ']' = some ([.closeArray], .between) := rfl
      have hrest := scansAs_itemChars fun v hv => ih v (List.mem_cons_of_mem _ hv) (level + 1)
      have hend := hrest.append (scansAs_newLine_append hclose level) (endsNumber_newLine level _)
      have hfirst := (ih first List.mem_cons_self (level + 1)).append hend
        ((endsNumber_itemChars _ rest).append (endsNumber_newLine level _))
      have hchars : chars level (.array (first :: rest)) = '[' :: newLine (level + 1) ++
          (chars (level + 1) first ++ (itemChars (level + 1) rest ++ (newLine level ++ [']']))) := by
        rw [chars]
        simp only [List.append_assoc, List.cons_append]
      rw [hchars]
      exact .cons_steps (steps_cons_newLine hopen (level + 1)) hfirst
  | @object fields _ ih =>
    cases fields with
    | nil => exact .of_steps rfl
    | cons field rest =>
      obtain ⟨name, value⟩ := field
      have hopen : jsonScanner.step .between '\x7b' = some ([.openObject], .between) := rfl
      have hclose : jsonScanner.step .between '\x7d' = some ([.closeObject], .between) := rfl
      have hrest := scansAs_fieldChars fun f hf => ih f (List.mem_cons_of_mem _ hf) (level + 1)
      have hend := hrest.append (scansAs_newLine_append hclose level) (endsNumber_newLine level _)
      have hvalue := (ih (name, value) List.mem_cons_self (level + 1)).append hend
        ((endsNumber_fieldChars _ rest).append (endsNumber_newLine level _))
      have hchars : chars level (.object ((name, value) :: rest)) =
          ('\x7b' :: newLine (level + 1) ++ (stringChars name ++ [':', ' '])) ++
            (chars (level + 1) value ++ (fieldChars (level + 1) rest ++ (newLine level ++ ['\x7d']))) := by
        rw [chars]
        simp only [List.append_assoc, List.cons_append, List.nil_append]
      rw [hchars]
      exact .cons_steps (steps_fieldName hopen (level + 1) name) hvalue

/-- Every document without floating-point numbers is read as the value that it was written for. -/
theorem read?_render {v : Json} (h : v.IsExact) : read? v.render = some v := by
  have hend : EndsNumber [] := by
    intro c hc
    cases hc
  have hscan := scansAs_chars h 0 [] hend
  rw [List.append_nil] at hscan
  unfold read? render
  rw [String.toList_ofList, hscan]
  show ((v.tokens ++ []).foldlM JsonState.step (.value [])).bind _ = _
  rw [List.append_nil, foldlM_tokens h]
  rfl

/-- What breaks a rule of the format is not read. -/
example : ["[1,]", "\x7b\"a\" 1\x7d", "01", "\"\t\"", "nulls", "1 2"].all
    fun s => (read? s).isNone := by decide

end Json

end NodeReport

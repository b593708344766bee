import NodeReport.Number.Decimal

/-! # JSON documents

  Values of the JSON format, with the fields of an object in the order in which they are written,
  and their layout with one value per line and two spaces per level.
-/

namespace NodeReport

/-- A JSON value. -/
inductive Json where
  | null
  | boolean (b : Bool)
  | integer (n : Int)
  | real (x : Binary64)
  | string (s : String)
  | array (items : List Json)
  | object (fields : List (String × Json))

namespace Json

/-- The array of some texts. -/
def strings (texts : List String) : Json :=
  .array (texts.map .string)

/-! ### Strings -/

/-- One character within a string; quotes, backslashes and controls are escaped. -/
def escapeChar (c : Char) : List Char :=
  if c = '"' then ['\\', '"']
  else if c = '\\' then ['\\', '\\']
  else if c = '\n' then ['\\', 'n']
  else if c = '\r' then ['\\', 'r']
  else if c = '\t' then ['\\', 't']
  else if c.toNat = 8 then ['\\', 'b']
  else if c.toNat = 12 then ['\\', 'f']
  else if c.toNat < 32 then
    ['\\', 'u', '0', '0', Nat.digitChar (c.toNat / 16), Nat.digitChar (c.toNat % 16)]
  else [c]

/-- A string between its quotes. -/
def stringChars (s : String) : List Char :=
  '"' :: s.toList.flatMap escapeChar ++ ['"']

/-! ### Layout -/

/-- The start of a line at a level. -/
def newLine (level : Nat) : List Char :=
  '\n' :: List.replicate (2 * level) ' '

mutual

/-- The characters of a value whose first line stands at a level. -/
def chars (level : Nat) : Json → List Char
  | .null => "null".toList
  | .boolean b => if b then "true".toList else "false".toList
  | .integer n => (integerText n).toList
  | .real x => (Decimal.render Decimal.document x).toList
  | .string s => stringChars s
  | .array items =>
    match items with
    | [] => ['[', ']']
    | first :: rest =>
      '[' :: newLine (level + 1) ++ chars (level + 1) first ++ itemChars (level + 1) rest
        ++ newLine level ++ [']']
  | .object fields =>
    match fields with
    | [] => ['\x7b', '\x7d']
    | (name, value) :: rest =>
      '\x7b' :: newLine (level + 1) ++ stringChars name ++ ':' :: ' ' :: chars (level + 1) value
        ++ fieldChars (level + 1) rest ++ newLine level ++ ['\x7d']

/-- The characters of the further items of an array. -/
def itemChars (level : Nat) : List Json → List Char
  | [] => []
  | item :: rest => ',' :: newLine level ++ chars level item ++ itemChars level rest

/-- The characters of the further fields of an object. -/
def fieldChars (level : Nat) : List (String × Json) → List Char
  | [] => []
  | (name, value) :: rest =>
    ',' :: newLine level ++ stringChars name ++ ':' :: ' ' :: chars level value
      ++ fieldChars level rest

end

/-- The text of a document. -/
def render (value : Json) : String :=
  String.ofList (chars 0 value)

end Json

end NodeReport

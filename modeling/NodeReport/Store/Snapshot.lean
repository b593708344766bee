import NodeReport.Store.Files
import NodeReport.Text.UrlEncoding

/-! # Databases as text

  A database is kept in a file as lines of words. The first line holds the time of the last change
  and how changes are prepared; then each table has a line, followed by a line for each of its
  columns and rows. Names and bytes are written in hexadecimal, so that no word holds a space.
-/

namespace NodeReport

namespace Snapshot

/-! ### Words -/

/-- Bytes as pairs of hexadecimal digits. -/
def hexChars (bytes : List UInt8) : List Char :=
  bytes.flatMap fun b =>
    [Text.upperHexDigit (b.toNat / 16), Text.upperHexDigit (b.toNat % 16)]

/-- The value of a hexadecimal digit. -/
def hexDigit? (c : Char) : Option Nat :=
  (List.range 16).find? fun n => Text.upperHexDigit n == c

/-- The bytes that pairs of hexadecimal digits write. -/
def readHex? : List Char → Option (List UInt8)
  | [] => some []
  | [_] => none
  | a :: b :: rest => do
    let high ← hexDigit? a
    let low ← hexDigit? b
    let bytes ← readHex? rest
    pure (UInt8.ofNat (16 * high + low) :: bytes)

/-- The word of a name. -/
def nameWord (name : String) : List Char :=
  'x' :: hexChars (Text.utf8 name)

/-- The name that a word writes. -/
def readName? : List Char → Option String
  | 'x' :: hex => (readHex? hex).map fun bytes => String.ofList (Text.decode bytes)
  | _ => none

/-- The word of a stored value, its kind first. -/
def valueWord : StoredValue → List Char
  | .null => ['n']
  | .integer n => 'i' :: (integerText n).toList
  | .real x => 'r' :: (Decimal.render Decimal.diagnostic x).toList
  | .text bytes => 't' :: hexChars bytes
  | .blob bytes => 'b' :: hexChars bytes

/-- The stored value that a word writes. -/
def readValue? : List Char → Option StoredValue
  | ['n'] => some .null
  | 'i' :: digits => (readInt64? digits).map .integer
  | 'r' :: digits => (readBinary64? digits).map .real
  | 't' :: hex => (readHex? hex).map .text
  | 'b' :: hex => (readHex? hex).map .blob
  | _ => none

/-! ### Lines -/

/-- A line of words. -/
abbrev Words := List (List Char)

/-- The words of what keeps rows apart. -/
def keyWords : TableKey → Words
  | .unkeyed => ["unkeyed".toList]
  | .numbered => ["numbered".toList]
  | .unique columns => "unique".toList :: columns.map nameWord

/-- What keeps rows apart, from its words. -/
def readKey? : Words → Option TableKey
  | [] => none
  | kind :: names =>
    if kind = "unkeyed".toList then some .unkeyed
    else if kind = "numbered".toList then some .numbered
    else if kind = "unique".toList then (names.mapM readName?).map .unique
    else none

/-- The word of a column's affinity. -/
def affinityWord : Affinity → List Char
  | .anything => "anything".toList
  | .numeric => "numeric".toList
  | .text => "text".toList

/-- A column's affinity, from its word. -/
def readAffinity? (word : List Char) : Option Affinity :=
  [Affinity.anything, .numeric, .text].find? fun a => affinityWord a == word

/-- The word of a column's collation. -/
def collationWord : Collation → List Char
  | .binary => "binary".toList
  | .noCase => "nocase".toList
  | .trimmed => "trimmed".toList

/-- A column's collation, from its word. -/
def readCollation? (word : List Char) : Option Collation :=
  [Collation.binary, .noCase, .trimmed].find? fun c => collationWord c == word

/-- The word that says whether a column must have a value. -/
def requiredWord (required : Bool) : List Char :=
  if required then "required".toList else "optional".toList

/-- The line of a column. -/
def columnWords (c : Column) : Words :=
  ["column".toList, nameWord c.name, affinityWord c.affinity, collationWord c.collation,
    requiredWord c.required]

/-- The lines of a table. -/
def tableLines (t : StoredTable) : List Words :=
  ("table".toList :: nameWord t.shape.name :: keyWords t.shape.key)
    :: t.shape.columns.map columnWords
    ++ t.rows.map fun row => "row".toList :: row.map valueWord

/-- Takes one line; the table that is being read stands first. -/
def readLine? (tables : List StoredTable) (words : Words) : Option (List StoredTable) :=
  match words, tables with
  | kind :: rest, tables =>
    if kind = "table".toList then
      match rest with
      | name :: key => do
        let name ← readName? name
        let key ← readKey? key
        pure ({ shape := { name, columns := [], key } } :: tables)
      | _ => none
    else
      match tables with
      | [] => none
      | t :: others =>
        if kind = "column".toList then
          match rest with
          | [name, affinity, collation, required] => do
            let name ← readName? name
            let affinity ← readAffinity? affinity
            let collation ← readCollation? collation
            let column : Column :=
              { name, affinity, collation, required := required == requiredWord true }
            pure ({ t with shape := { t.shape with columns := t.shape.columns ++ [column] } }
              :: others)
          | _ => none
        else if kind = "row".toList then do
          let row ← rest.mapM readValue?
          pure ({ t with rows := t.rows ++ [row] } :: others)
        else none
  | [], _ => none

/-! ### Files -/

/-- The first word of a file with a database. -/
def heading : List Char := "statistics".toList

/-- The word of the way in which changes are prepared. -/
def modeWord : ChangeMode → List Char
  | .journal => "journal".toList
  | .log => "log".toList

/-- The way in which changes are prepared, from its word. -/
def readMode? (word : List Char) : Option ChangeMode :=
  [ChangeMode.journal, .log].find? fun mode => modeWord mode == word

/-- The text of a database, of the way in which its changes are prepared and of the time of its last
    change. -/
def write (db : Database) (mode : ChangeMode) (modified : Instant) : String :=
  let lines :=
    [heading, (integerText modified).toList, modeWord mode] :: db.tables.flatMap tableLines
  String.ofList (lines.flatMap fun words => [' '].intercalate words ++ ['\n'])

/-- What a text of a database says. -/
def read? (text : String) : Option FileNode :=
  let lines := (Text.split '\n' text.toList).filter fun line => !line.isEmpty
  match lines.map (Text.split ' ') with
  | [first, time, mode] :: rest =>
    if first = heading then do
      let modified ← readInt64? time
      let mode ← readMode? mode
      let tables ← rest.foldlM readLine? []
      pure (.file (.database { tables := tables.reverse } mode) modified)
    else none
  | _ => none

/-- What a file with this text holds. -/
def node (text : String) : FileNode :=
  (read? text).getD (.file (.text text) 0)

end Snapshot

end NodeReport

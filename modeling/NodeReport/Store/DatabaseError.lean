import NodeReport.Number.Decimal

/-! # Refusals of a database

  Every cause for which a database refuses a request, and its wording.
-/

namespace NodeReport

/-- Why a database refuses a request. -/
inductive DatabaseError where
  /-- There is no such table. -/
  | noSuchTable (name : String)
  /-- There is no such column. -/
  | noSuchColumn (name : String)
  /-- A table of this name has no such column. -/
  | noColumnNamed (table column : String)
  /-- A row has another number of values than the table has columns. -/
  | valueCount (table : String) (columns values : Nat)
  /-- The number of a row is no integer. -/
  | datatypeMismatch
  /-- A column that must have a value has none. -/
  | missingValue (table column : String)
  /-- There is a row with the same values already. -/
  | notUnique (table : String) (columns : List String)
  /-- There is no number left for a row. -/
  | full
  /-- Two columns of a table have the same name. -/
  | duplicateColumn (name : String)
  /-- A statement ends too early. -/
  | emptyList
  /-- A result is of another kind than the one that is asked for. -/
  | wrongKind (kind : String) (index : Nat) (column : String)
  /-- The table holds what the database knows of itself and takes no rows. -/
  | notModifiable (table : String)
  /-- The table holds what the database knows of itself and stays. -/
  | notDroppable (table : String)
  /-- The name is kept for what the database knows of itself. -/
  | reservedName (name : String)
  /-- A statement ends within a name. -/
  | brokenToken (token : String)
  /-- The file holds something else. -/
  | notADatabase
  /-- The file can be neither read nor made. -/
  | cannotOpen (path : String)
  /-- A file beside the database can be neither read nor made. -/
  | cannotOpenBeside
  /-- A file cannot be read as a file. -/
  | diskError
  /-- The files beside the database never come to rest. -/
  | lockingProtocol
  /-- The database may only be read. -/
  | readOnly
  /-- The path has a byte in which every text ends. -/
  | nulByte (position : Nat)
  /-- The file is said to be on another machine. -/
  | foreignAuthority (authority : String)
  /-- There is no such value of an option. -/
  | noSuchMode (option value : String)
  /-- The value of an option gives more rights than there are. -/
  | modeNotAllowed (option value : String)
  /-- There is no such way to the files. -/
  | noSuchLayer (name : String)
deriving DecidableEq

/-- The wording of an error. -/
def DatabaseError.message : DatabaseError → String
  | .noSuchTable name => "no such table: " ++ name
  | .noSuchColumn name => "no such column: " ++ name
  | .noColumnNamed table column => "table " ++ table ++ " has no column named " ++ column
  | .valueCount table columns values =>
    "table " ++ table ++ " has " ++ integerText columns ++ " columns but " ++ integerText values
      ++ " values were supplied"
  | .datatypeMismatch => "datatype mismatch"
  | .missingValue table column => "NOT NULL constraint failed: " ++ table ++ "." ++ column
  | .notUnique table columns =>
    "UNIQUE constraint failed: " ++ ", ".intercalate (columns.map fun c => table ++ "." ++ c)
  | .full => "database or disk is full"
  | .duplicateColumn name => "duplicate column name: " ++ name
  | .emptyList => "near \")\": syntax error"
  | .wrongKind kind index column =>
    "Invalid column type " ++ kind ++ " at index: " ++ integerText index ++ ", name: " ++ column
  | .notModifiable table => "table " ++ table ++ " may not be modified"
  | .notDroppable table => "table " ++ table ++ " may not be dropped"
  | .reservedName name => "object name reserved for internal use: " ++ name
  | .brokenToken token => "unrecognized token: \"" ++ token ++ "\""
  | .notADatabase => "file is not a database"
  | .cannotOpen path => "unable to open database file: " ++ path
  | .cannotOpenBeside => "unable to open database file"
  | .diskError => "disk I/O error"
  | .lockingProtocol => "locking protocol"
  | .readOnly => "attempt to write a readonly database"
  | .nulByte position => "nul byte found in provided data at position: " ++ integerText position
  | .foreignAuthority authority => "invalid uri authority: " ++ authority
  | .noSuchMode option value => "no such " ++ option ++ " mode: " ++ value
  | .modeNotAllowed option value => option ++ " mode not allowed: " ++ value
  | .noSuchLayer name => "no such vfs: " ++ name

end NodeReport

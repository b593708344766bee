import NodeReport.Store.Database

/-! # Statements

  A statement changes a database. It may be refused by its text alone, before the database is
  looked at; what the database knows of itself cannot be changed by it.
-/

namespace NodeReport

/-- A change that is asked of a database. -/
inductive Statement where
  /-- One more row in a table. -/
  | insert (table : String) (values : List StoredValue)
  /-- No table of this name any more. -/
  | drop (table : String)
  /-- No table of this name any more, if there is one. -/
  | dropIfPresent (table : String)
  /-- A table with columns for any values. -/
  | create (table : String) (columns : List String)
deriving DecidableEq

namespace Statement

/-! ### Names -/

/-- The name of the table that describes the tables, whichever way it is written. -/
def ownTable? (name : String) : Option String :=
  if sameName name "sqlite_master" ∨ sameName name "sqlite_schema" then some "sqlite_master"
  else if sameName name "sqlite_temp_master" ∨ sameName name "sqlite_temp_schema" then
    some "sqlite_temp_master"
  else none

/-- Whether a name is kept for the database's own tables. -/
def isReserved (name : String) : Bool :=
  "sqlite_".toList.isPrefixOf (name.toList.map Char.toLower)

/-- What a statement cannot be read because of, if it ends within a name. -/
def brokenName? (name : String) : Option DatabaseError :=
  if name.toList.contains '\x00' then
    let visible := name.toList.takeWhile (· != '\x00')
    let doubled := visible.flatMap fun c => if c = '"' then ['"', '"'] else [c]
    some (.brokenToken (String.ofList ('"' :: doubled)))
  else none

/-- Why the columns of a new table are refused: by the first one that cannot be read or has the
    name of one before it. -/
def columnError? (before : List String) : List String → Option DatabaseError
  | [] => none
  | name :: rest =>
    match brokenName? name with
    | some e => some e
    | none =>
      if before.any (sameName name) then some (.duplicateColumn name)
      else columnError? (name :: before) rest

/-! ### Effect -/

/-- Why a statement is refused by its text alone. -/
def textError? : Statement → Option DatabaseError
  | .insert table values =>
    match brokenName? table with
    | some e => some e
    | none => if values.isEmpty then some .emptyList else none
  | .drop table => brokenName? table
  | .dropIfPresent table => brokenName? table
  | .create table _ => brokenName? table

/-- Puts a row into a table. -/
def insertRow (db : Database) (table : String) (values : List StoredValue) :
    Except DatabaseError Database :=
  match ownTable? table with
  | some own => .error (.notModifiable own)
  | none =>
    match db.table? table with
    | none => .error (.noSuchTable table)
    | some t =>
      if values.length ≠ t.shape.columns.length then
        .error (.valueCount table t.shape.columns.length values.length)
      else (db.insertInto t values).map fun (db, _) => db

/-- Removes a table, which may be missing if that is `allowed`. -/
def dropTable (db : Database) (table : String) (allowed : Bool) :
    Except DatabaseError Database :=
  match ownTable? table with
  | some own => .error (.notDroppable own)
  | none =>
    match db.table? table with
    | none => if allowed then .ok db else .error (.noSuchTable table)
    | some t =>
      if sameName table Sequence.shape.name then .error (.notDroppable t.shape.name)
      else .ok (db.remove t)

/-- Makes a table. -/
def createTable (db : Database) (table : String) (columns : List String) :
    Except DatabaseError Database :=
  if isReserved table then .error (.reservedName table)
  else if columns.isEmpty then .error .emptyList
  else
    match columnError? [] columns with
    | some e => .error e
    | none => .ok (db.addTable (TableShape.untyped table columns))

/-- The database after a statement. -/
def run (s : Statement) (db : Database) : Except DatabaseError Database :=
  match s.textError? with
  | some e => .error e
  | none =>
    match s with
    | .insert table values => insertRow db table values
    | .drop table => dropTable db table false
    | .dropIfPresent table => dropTable db table true
    | .create table columns => createTable db table columns

/-- The database after statements up to the first that fails; those before it have their effect. -/
def runAll : List Statement → Database → Database × Except DatabaseError Unit
  | [], db => (db, .ok ())
  | s :: rest, db =>
    match s.run db with
    | .ok db => runAll rest db
    | .error e => (db, .error e)

/-! ### Lists of statements -/

/-- Statements that put rows into a table. -/
def insertAll (table : String) (rows : List (List StoredValue)) : List Statement :=
  rows.map (insert table)

/-- Statements that make a table in place of one with its name. -/
def remake (table : String) (columns : List String) : List Statement :=
  [.dropIfPresent table, .create table columns]

end Statement

end NodeReport

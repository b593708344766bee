import NodeReport.Number.Decimal
import NodeReport.Store.Place

/-! # Where the database lies

  A report reads the database that its arguments name, else the one that the environment names,
  else the one for its year in a directory.
-/

namespace NodeReport

/-- What the environment says about paths. -/
structure Environment where
  /-- Path of the database. -/
  database : Option String := none
  /-- Path of the directory with a database per year. -/
  directory : Option String := none
  /-- The home directory. -/
  home : Option String := none
  /-- The directory for data. -/
  dataHome : Option String := none
deriving DecidableEq

namespace Location

/-- A path within a directory; one that starts at the top stands for itself. -/
def join (base path : String) : String :=
  if Path.fromTop path then path
  else if base.isEmpty || Path.isSlashed base then base ++ path
  else base ++ "/" ++ path

/-- The home directory, if it is set. -/
def home? (env : Environment) : Option String :=
  env.home.filter fun h => !h.isEmpty

/-- The directory for data, if it is known. -/
def dataDirectory? (env : Environment) : Option String :=
  match env.dataHome.filter Path.fromTop with
  | some path => some path
  | none => (home? env).map fun h => join h ".local/share"

/-- The directory for databases, if nothing else is said. -/
def defaultDirectory (env : Environment) : String :=
  join ((dataDirectory? env).getD ".") "reqlogstats"

/-- A path in which `~/` at the start stands for the home directory. -/
def expandHome (env : Environment) (path : String) : String :=
  match path.toList, home? env with
  | '~' :: '/' :: rest, some h => join h (String.ofList rest)
  | _, _ => path

/-- The name of the database for a year. -/
def fileName (year : Int) : String :=
  "reqlogstats-" ++ integerText year ++ ".db"

/-- The path of the database for a report on a year. -/
def databasePath (env : Environment) (database directory : Option String) (year : Int) :
    String :=
  match database with
  | some path => path
  | none =>
    match env.database with
    | some path => expandHome env path
    | none =>
      let base :=
        match directory, env.directory with
        | some path, _ => path
        | none, some path => expandHome env path
        | none, none => defaultDirectory env
      join base (fileName year)

end Location

end NodeReport

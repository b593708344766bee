import NodeReport.Calendar.Instant
import NodeReport.Store.Database
import NodeReport.Store.Place

/-! # Files

  A tree of directories and files, seen from a working directory. A file holds text, a database, or
  the log that a database may keep of its changes, or the log's index. A path is followed name by
  name, and each name needs a directory before it. At some places rights may be missing.
-/

namespace NodeReport

/-- How the changes of a database are prepared. -/
inductive ChangeMode where
  /-- In a journal, which can take a change back. -/
  | journal
  /-- In a log, from which changes are taken over. -/
  | log
deriving DecidableEq

/-- What a file holds. -/
inductive FileContent where
  /-- A text. -/
  | text (s : String)
  /-- A database, which says how its changes are prepared. -/
  | database (db : Database) (mode : ChangeMode := .journal)
  /-- The log of a database, which is found as this one through it. -/
  | log (db : Database)
  /-- The index of a log. -/
  | logIndex
deriving DecidableEq

/-- What stands at a place of the tree. -/
inductive FileNode where
  /-- A directory. -/
  | directory
  /-- A file, with the time of its last change. -/
  | file (content : FileContent) (modified : Instant)
deriving DecidableEq

/-- What may be done at a place. -/
inductive Right where
  /-- Reading a file, or going through a directory. -/
  | read
  /-- Changing a file, or what stands in a directory. -/
  | write
deriving DecidableEq

/-- Why an operation on a file fails. -/
inductive FileError where
  /-- There is nothing at this place. -/
  | notFound
  /-- There is something else at this place. -/
  | alreadyExists
  /-- A file stands where a directory is needed. -/
  | notADirectory
  /-- A directory stands where a file is needed. -/
  | isADirectory
  /-- A right is missing. -/
  | denied
  /-- A name or a path has too many bytes. -/
  | nameTooLong
  /-- A path has a byte in which every text ends. -/
  | nulByte
  /-- A file's bytes are no text. -/
  | notText
deriving DecidableEq

/-- The wording of an error. -/
def FileError.message : FileError → String
  | .notFound => "No such file or directory (os error 2)"
  | .alreadyExists => "File exists (os error 17)"
  | .notADirectory => "Not a directory (os error 20)"
  | .isADirectory => "Is a directory (os error 21)"
  | .denied => "Permission denied (os error 13)"
  | .nameTooLong => "File name too long (os error 36)"
  | .nulByte => "file name contained an unexpected NUL byte"
  | .notText => "stream did not contain valid UTF-8"

/-- A tree of files; the working directory, the top and what is above them are always there. -/
structure FileSystem where
  /-- What stands at which place. -/
  nodes : List (Place × FileNode) := []
  /-- The rights that are missing, and where. -/
  denied : List (Right × Place) := []
deriving DecidableEq

namespace FileSystem

/-! ### Places -/

/-- What stands at a place. -/
def at? (fs : FileSystem) (place : Place) : Option FileNode :=
  if place.isGiven then some .directory
  else (fs.nodes.find? fun e => e.1 == place).map fun e => e.2

/-- Whether there is a right at a place. -/
def allows (fs : FileSystem) (right : Right) (place : Place) : Bool :=
  !fs.denied.contains (right, place)

/-- The tree with nothing at a place. -/
def erase (fs : FileSystem) (place : Place) : FileSystem where
  nodes := fs.nodes.filter fun e => e.1 != place
  denied := fs.denied.filter fun e => e.2 != place

/-- The tree with this at a place. What was missing there before has all rights. -/
def put (fs : FileSystem) (place : Place) (node : FileNode) : FileSystem where
  nodes := (place, node) :: (fs.erase place).nodes
  denied := if (fs.at? place).isSome then fs.denied else (fs.erase place).denied

/-- The tree with the same rights at one place as at another. -/
def copyRights (fs : FileSystem) (source target : Place) : FileSystem where
  nodes := fs.nodes
  denied :=
    (([Right.read, .write].filter fun right => !fs.allows right source).map fun right =>
      (right, target)) ++ fs.denied.filter fun e => e.2 != target

/-- Whether a file can be changed at a place, or made if nothing stands there. -/
def canWrite (fs : FileSystem) (place : Place) : Bool :=
  match fs.at? place with
  | none => fs.allows .write place.up
  | some .directory => false
  | some (.file _ _) => fs.allows .write place

/-! ### Paths -/

/-- Follows names from a place. -/
def walk (fs : FileSystem) (place : Place) : List String → Except FileError Place
  | [] => .ok place
  | name :: rest =>
    match fs.at? place with
    | none => .error .notFound
    | some (.file _ _) => .error .notADirectory
    | some .directory =>
      if !fs.allows .read place then .error .denied
      else if Path.nameLimit < name.utf8ByteSize then .error .nameTooLong
      else fs.walk (place.step name) rest

/-- Why a path cannot even be followed. -/
def pathError? (path : String) : Option FileError :=
  if path.toList.contains '\x00' then some .nulByte
  else if path.isEmpty then some .notFound
  else if Path.sizeLimit ≤ path.utf8ByteSize then some .nameTooLong
  else none

/-- Follows the first names of a path. -/
def follow (fs : FileSystem) (path : String) (names : List String) : Except FileError Place :=
  match pathError? path with
  | some e => .error e
  | none => fs.walk (Place.start path) names

/-- The place to which a path leads and what stands there. -/
def find (fs : FileSystem) (path : String) : Except FileError (Place × FileNode) := do
  let place ← fs.follow path (Path.names path)
  match fs.at? place with
  | none => .error .notFound
  | some (.file content modified) =>
    if Path.isSlashed path then .error .notADirectory
    else .ok (place, .file content modified)
  | some .directory => .ok (place, .directory)

/-- Whether a path leads to a file. -/
def isFile (fs : FileSystem) (path : String) : Bool :=
  match fs.find path with
  | .ok (_, .file _ _) => true
  | _ => false

/-- Whether a path leads to a directory. -/
def isDirectory (fs : FileSystem) (path : String) : Bool :=
  match fs.find path with
  | .ok (_, .directory) => true
  | _ => false

/-! ### Texts -/

/-- The text of a file. -/
def readText (fs : FileSystem) (path : String) : Except FileError String := do
  let (place, node) ← fs.find path
  if !fs.allows .read place then .error .denied
  else
    match node with
    | .directory => .error .isADirectory
    | .file (.text s) _ => .ok s
    | .file _ _ => .error .notText

/-- Puts a text into a file, which is made if it is missing; a path with a slash at the end cannot
    mean a file. -/
def writeText (fs : FileSystem) (now : Instant) (path s : String) :
    Except FileError FileSystem :=
  if Path.isSlashed path then do
    let _ ← fs.follow path ((Path.names path).dropLast ++ ["."])
    .error .isADirectory
  else do
    let place ← fs.follow path (Path.names path)
    match fs.at? place with
    | some .directory => .error .isADirectory
    | _ =>
      if fs.canWrite place then .ok (fs.put place (.file (.text s) now))
      else .error .denied

/-- Sets the time of a file's last change. -/
def setModified (fs : FileSystem) (path : String) (modified : Instant) :
    Except FileError FileSystem := do
  match ← fs.find path with
  | (place, .file content _) =>
    if fs.canWrite place then .ok (fs.put place (.file content modified))
    else .error .denied
  | (_, .directory) => .error .isADirectory

/-! ### Directories -/

/-- Makes a directory in a directory that is there. -/
def makeDirectory (fs : FileSystem) (path : String) : Except FileError FileSystem := do
  let names := Path.names path
  let last := names.getLast?.getD "."
  if last = "." ∨ last = ".." then
    let _ ← fs.follow path names
    .error .alreadyExists
  else
    let place ← fs.follow path names
    match fs.at? place with
    | some _ => .error .alreadyExists
    | none =>
      if fs.allows .write place.up then .ok (fs.put place .directory)
      else .error .denied

/-- Makes a directory, of which no harm is done if it is there. -/
def ensureDirectory (fs : FileSystem) (path : String) : Except FileError FileSystem :=
  match fs.makeDirectory path with
  | .error .alreadyExists => if fs.isDirectory path then .ok fs else .error .alreadyExists
  | result => result

/-- Makes a directory at the first path, after those above it where they are missing. What is made
    stays, even if the rest fails. -/
def ensureAll (fs : FileSystem) : List String → FileSystem × Except FileError Unit
  | [] => (fs, .ok ())
  | path :: above =>
    match fs.ensureDirectory path with
    | .ok fs => (fs, .ok ())
    | .error .notFound =>
      match fs.ensureAll above with
      | (fs, .error e) => (fs, .error e)
      | (fs, .ok _) =>
        match fs.ensureDirectory path with
        | .ok fs => (fs, .ok ())
        | .error e => (fs, .error e)
    | .error e => (fs, .error e)

/-- Makes a directory and those above it, where they are missing; the empty path and the top are
    always there. -/
def makeDirectories (fs : FileSystem) (path : String) : FileSystem × Except FileError Unit :=
  if (Path.components path).isEmpty then (fs, .ok ())
  else fs.ensureAll (path :: Path.above path)

end FileSystem

end NodeReport

import NodeReport.Store.Address
import NodeReport.Store.Files
import NodeReport.Store.ReportStore
import NodeReport.Store.Statement

/-! # Databases in files

  A database is read from its file and put back when it has changed. A file of at most one byte is
  taken for a database without tables. Three files beside it have a part in this. In the journal
  every change is prepared, and a journal that was left behind is taken back first. A database may
  keep a log instead, and a log that stands beside it counts even if it does not: the database is
  what is found through the log. And the log has an index, which even those who only read leave
  behind.
-/

namespace NodeReport

/-! ### Contents -/

namespace FileContent

/-- Whether a file counts as empty when it is taken for a database. -/
def isBlank : FileContent → Bool
  | .text s => decide (s.utf8ByteSize ≤ 1)
  | _ => false

/-- The database that a file holds. -/
def toDatabase : FileContent → Except DatabaseError Database
  | .database db _ => .ok db
  | .text s => if (text s).isBlank then .ok {} else .error .notADatabase
  | .log _ => .error .notADatabase
  | .logIndex => .error .notADatabase

/-- How the changes of a database are prepared. -/
def mode : FileContent → ChangeMode
  | .database _ mode => mode
  | _ => .journal

/-- Whether there are any bytes. -/
def isNonempty : FileContent → Bool
  | .text s => !s.isEmpty
  | _ => true

/-- Whether a journal with this content has a change to take back: its first byte is not zero. -/
def isUnfinished : FileContent → Bool
  | .text s => s.toList.head?.any (· != '\x00')
  | _ => true

/-- Whether a log with this content has room for its heading, but has none. -/
def isBrokenLog : FileContent → Bool
  | .text s => decide (32 ≤ s.utf8ByteSize)
  | .log _ => false
  | _ => true

end FileContent

/-- Whether something is a file with a content of this kind. -/
def FileNode.holds (p : FileContent → Bool) : FileNode → Bool
  | .directory => false
  | .file content _ => p content

/-- A database in use. -/
inductive OpenDatabase where
  /-- It is forgotten after use. -/
  | forgotten (readOnly : Bool)
  /-- It is kept in a file. -/
  | file (place : Place) (readOnly : Bool)
deriving DecidableEq

namespace FileSystem

/-! ### The files beside a database -/

/-- The place of the journal. -/
def journalOf (place : Place) : Place := place.beside "-journal"

/-- The place of the log. -/
def logOf (place : Place) : Place := place.beside "-wal"

/-- The place of the log's index. -/
def indexOf (place : Place) : Place := place.beside "-shm"

/-- Whether all names of a place are short enough for it to be made. -/
def isShort (place : Place) : Bool :=
  place.all fun name => decide (name.utf8ByteSize ≤ Path.nameLimit)

/-- Why a change cannot be taken back that is in the journal. -/
def journalError? (fs : FileSystem) (place : Place) (readOnly : Bool) : Option DatabaseError :=
  let isReadable := fs.allows .read (journalOf place)
  match fs.at? (journalOf place) with
  | none => none
  | some .directory => some .diskError
  | some (.file content _) =>
    if !content.isNonempty || isReadable && !content.isUnfinished then none
    else if readOnly then some .readOnly
    else if !isReadable || !fs.allows .write (journalOf place) then some .cannotOpenBeside
    else if !fs.allows .write place.up then some .diskError
    else none

/-- Whether something stands at a place, other than a file with nothing in it. -/
def isFilled (fs : FileSystem) (place : Place) : Bool :=
  (fs.at? place).any fun node => node == .directory || node.holds FileContent.isNonempty

/-- Whether a database is found through a log: it keeps one, or there is one. A log beside a blank
    file does not count. -/
def isLogged (fs : FileSystem) (place : Place) (content : FileContent) : Bool :=
  content.mode == .log || !content.isBlank && fs.isFilled (logOf place)

/-- Why the log of a database can be neither read nor made. -/
def logError? (fs : FileSystem) (place : Place) : Option DatabaseError :=
  match fs.at? (logOf place) with
  | none =>
    if !isShort (logOf place) then some .cannotOpenBeside
    else if fs.allows .write place.up then none
    else some .readOnly
  | some .directory => some .cannotOpenBeside
  | some (.file _ _) => if fs.allows .read (logOf place) then none else some .cannotOpenBeside

/-- Why the index of a log can be neither read nor made. One that cannot be changed is of no use for
    a log without a heading. -/
def indexError? (fs : FileSystem) (place : Place) : Option DatabaseError :=
  match fs.at? (indexOf place) with
  | none => if fs.canWrite (indexOf place) then none else some .cannotOpenBeside
  | some _ =>
    if !fs.allows .read (indexOf place) then some .cannotOpenBeside
    else if !fs.canWrite (indexOf place)
        && (fs.at? (logOf place)).any (FileNode.holds FileContent.isBrokenLog) then
      some .lockingProtocol
    else none

/-- Why the log beside a blank file cannot be removed. -/
def removalError? (fs : FileSystem) (place : Place) : Option DatabaseError :=
  if fs.at? (logOf place) = some .directory then some .diskError
  else if fs.isFilled (logOf place) && !fs.allows .write place.up then some .diskError
  else none

/-- Why a database cannot be read because of what stands beside its file. -/
def besideError? (fs : FileSystem) (place : Place) (content : FileContent) (readOnly : Bool) :
    Option DatabaseError :=
  if content.isBlank then fs.removalError? place
  else
    (fs.journalError? place readOnly).or
      (if fs.isLogged place content then (fs.logError? place).or (fs.indexError? place) else none)

/-! ### What stays beside a database -/

/-- The tree without a file at a place, if it is there and of this kind. -/
def eraseIf (fs : FileSystem) (place : Place) (p : FileContent → Bool) : FileSystem :=
  if (fs.at? place).any (FileNode.holds p) then fs.erase place else fs

/-- The tree with a log, which is made if it is missing. One with nothing in it gets the rights of
    the database. -/
def ensureLog (fs : FileSystem) (now : Instant) (place : Place) : FileSystem :=
  let after :=
    if (fs.at? (logOf place)).isSome then fs else fs.put (logOf place) (.file (.text "") now)
  if fs.isFilled (logOf place) then after else after.copyRights place (logOf place)

/-- The tree with a new index of the log, if it can be opened and changed. One with nothing in it
    before gets the rights of the database. -/
def renewIndex (fs : FileSystem) (now : Instant) (place : Place) : FileSystem :=
  if fs.indexError? place = some .cannotOpenBeside then fs
  else
    let after :=
      if fs.canWrite (indexOf place) then fs.put (indexOf place) (.file .logIndex now) else fs
    if fs.isFilled (indexOf place) then after else after.copyRights place (indexOf place)

/-- The tree after a database was read: a log goes with a blank file, and gets an index
    otherwise. -/
def leaveIndex (fs : FileSystem) (now : Instant) (place : Place) (content : FileContent) :
    FileSystem :=
  if content.isBlank then
    if (fs.removalError? place).isSome then fs
    else fs.eraseIf (logOf place) FileContent.isNonempty
  else if fs.isLogged place content && (fs.logError? place).isNone then
    (fs.ensureLog now place).renewIndex now place
  else fs

/-- The tree after a database was only read. -/
def leave (fs : FileSystem) (now : Instant) (place : Place) (content : FileContent) : FileSystem :=
  if !content.isBlank && (fs.journalError? place true).isSome then fs
  else fs.leaveIndex now place content

/-- Whether what is in a log can be taken over. -/
def canLog (fs : FileSystem) (place : Place) : Bool :=
  fs.canWrite (logOf place) && fs.canWrite (indexOf place)

/-- The tree after what is in a log is taken over, and the log and its index are removed if anything
    can be removed from their directory. -/
def dropLog (fs : FileSystem) (now : Instant) (place : Place) (content : FileContent) :
    FileSystem :=
  let after :=
    match content, fs.at? (logOf place) with
    | .database _ mode, some (.file (.log db) _) => fs.put place (.file (.database db mode) now)
    | _, _ => fs
  if fs.allows .write place.up then (after.erase (logOf place)).erase (indexOf place) else after

/-- The tree after what was left behind beside a database is taken back. -/
def settle (fs : FileSystem) (now : Instant) (place : Place) (content : FileContent) :
    FileSystem :=
  if content.isBlank then
    let after :=
      if fs.allows .write place.up then fs.eraseIf (journalOf place) FileContent.isNonempty else fs
    after.leaveIndex now place content
  else if (fs.journalError? place false).isSome then fs
  else
    let before := fs.eraseIf (journalOf place) FileContent.isUnfinished
    let after := before.leaveIndex now place content
    if fs.isLogged place content && (fs.besideError? place content false).isNone
        && fs.canLog place then
      after.dropLog now place content
    else after

/-- Why a change cannot be prepared in the journal. -/
def prepareError? (fs : FileSystem) (place : Place) : Option DatabaseError :=
  if !isShort (journalOf place) then some .cannotOpenBeside
  else
    match fs.at? (journalOf place) with
    | none => if fs.allows .write place.up then none else some .readOnly
    | some .directory => some .cannotOpenBeside
    | some (.file _ _) =>
      if !fs.allows .read (journalOf place) then some .cannotOpenBeside
      else if fs.allows .write (journalOf place) && fs.allows .write place.up then none
      else some .diskError

/-- Whether a change can be prepared in the journal. -/
def canPrepare (fs : FileSystem) (place : Place) : Bool :=
  (fs.prepareError? place).isNone

/-! ### Opening -/

/-- Follows the names on the way to a place. -/
def reach (fs : FileSystem) : Place → Except FileError Place
  | [] => .ok []
  | name :: rest =>
    if name = "/" then fs.walk ["/"] rest else fs.walk [] (name :: rest)

/-- Whether a place is missing at worst, and not impossible. -/
def isConceivable (fs : FileSystem) (place : Place) : Bool :=
  match fs.reach place with
  | .ok _ => true
  | .error e => e == .notFound

/-- The most bytes that the way to a database may have. -/
def waySizeLimit : Nat := 504

/-- The place of a database's file. Its path goes by names alone: a name that `..` takes back need
    not be there, but nothing may be below a file. -/
def databasePlace? (fs : FileSystem) (path : String) : Option Place := do
  let place ← (Path.names path).foldlM (fun place name =>
    let next := place.step name
    if fs.isConceivable next then some next else none) (Place.start path)
  if place.size ≤ waySizeLimit then some place else none

/-- Whether a file can be opened or made at a place; a directory is only found out when it is
    read. -/
def canOpen (fs : FileSystem) (place : Place) (access : Access) : Bool :=
  match fs.at? place with
  | some .directory => access == .readOnly && fs.allows .read place
  | some (.file _ _) => fs.allows .read place
  | none => access == .creating && (fs.reach place).toBool && fs.canWrite place

/-- The database that a path means, if it can be opened. A file that cannot be changed is only
    read. -/
def resolve (fs : FileSystem) (access : Access) (path : String) :
    Except DatabaseError OpenDatabase := do
  let address ← DatabaseAddress.ofPath access path
  if address.isForgotten then
    return .forgotten (address.path == "" && address.access == .readOnly)
  match fs.databasePlace? address.path with
  | none => throw (.cannotOpen path)
  | some place =>
    if fs.canOpen place address.access then
      return .file place (address.access == .readOnly || !fs.canWrite place)
    else throw (.cannotOpen path)

/-- What stands in the file of an open database: one that was missing is blank. -/
def contentAt? (fs : FileSystem) (place : Place) : Option FileContent :=
  match fs.at? place with
  | some (.file content _) => some content
  | some .directory => none
  | none => some (.text "")

/-- The tree once a database is open: its file is made if it is missing. -/
def touch (fs : FileSystem) (now : Instant) : OpenDatabase → FileSystem
  | .forgotten _ => fs
  | .file place _ =>
    match fs.at? place with
    | some _ => fs
    | none => fs.put place (.file (.text "") now)

/-! ### Reading -/

/-- The database in a file, as it is found through a log. -/
def databaseAt (fs : FileSystem) (place : Place) (content : FileContent) :
    Except DatabaseError Database :=
  match content, fs.at? (logOf place) with
  | .database _ _, some (.file (.log db) _) => .ok db
  | _, _ => content.toDatabase

/-- What an open database holds. -/
def load (fs : FileSystem) : OpenDatabase → Except DatabaseError Database
  | .forgotten _ => .ok {}
  | .file place readOnly =>
    match fs.contentAt? place with
    | some content =>
      match fs.besideError? place content readOnly with
      | some e => .error e
      | none => fs.databaseAt place content
    | none => .error .diskError

/-- The tree after a database was used, before it is put back. -/
def settleFor (fs : FileSystem) (now : Instant) : OpenDatabase → FileSystem
  | .forgotten _ => fs
  | .file place readOnly =>
    match fs.at? place with
    | some (.file content _) =>
      if readOnly then fs.leave now place content else fs.settle now place content
    | _ => fs

/-- Opens a database to read it; a path that leads to no file has none. -/
def openDatabase (fs : FileSystem) (path : String) : Except StoreError (Database × Instant) :=
  match fs.find path with
  | .ok (_, .file _ modified) =>
    match fs.resolve .readOnly path >>= fs.load with
    | .ok db => .ok (db, modified)
    | .error e => .error (.unusable path e)
  | _ => .error (.unavailable path)

/-- The tree after a database was opened to be read. The options of an address may give the right to
    write, and then its file is made if it is missing. -/
def afterOpening (fs : FileSystem) (now : Instant) (path : String) : FileSystem :=
  match fs.find path with
  | .ok (_, .file _ _) =>
    match fs.resolve .readOnly path with
    | .ok opened => (fs.touch now opened).settleFor now opened
    | .error _ => fs
  | _ => fs

/-! ### Changing -/

/-- Whether changes of a database go into a log. -/
def logs (fs : FileSystem) : OpenDatabase → Bool
  | .forgotten _ => false
  | .file place _ =>
    match fs.at? place with
    | some (.file content _) => fs.isLogged place content
    | _ => false

/-- Puts a changed database back into the tree that its use has left. Its change is prepared in the
    journal, or else in the log, which stays if nothing can be removed from its directory. -/
def save (fs settled : FileSystem) (now : Instant) (db : Database) :
    OpenDatabase → Except DatabaseError FileSystem
  | .forgotten readOnly => if readOnly then .error .readOnly else .ok settled
  | .file place readOnly =>
    if readOnly then .error .readOnly
    else if fs.logs (.file place readOnly) then
      if fs.canLog place then
        let mode := ((fs.contentAt? place).map FileContent.mode).getD .journal
        let after := settled.put place (.file (.database db mode) now)
        if fs.allows .write place.up then .ok after
        else .ok (after.put (logOf place) (.file (.log db) now))
      else .error .readOnly
    else
      match settled.prepareError? place with
      | some e => .error e
      | none => .ok ((settled.erase (journalOf place)).put place (.file (.database db) now))

/-- Changes a database that is open; a change that fails may still have done a part. -/
def change {α : Type} (fs : FileSystem) (now : Instant) (opened : OpenDatabase)
    (f : Database → Database × Except DatabaseError α) : FileSystem × Except DatabaseError α :=
  let settled := fs.settleFor now opened
  match fs.load opened with
  | .error e => (settled, .error e)
  | .ok db =>
    let (after, result) := f db
    if after = db then (settled, result)
    else
      match fs.save settled now after opened with
      | .ok fs => (fs, result)
      | .error e => (settled, .error e)

/-- Runs statements on a database. One that its text refuses does not reach the database. -/
def execute (fs : FileSystem) (now : Instant) (path : String) (statements : List Statement) :
    FileSystem × Except DatabaseError Unit :=
  match fs.resolve .creating path with
  | .error e => (fs, .error e)
  | .ok opened =>
    let touched := fs.touch now opened
    match statements with
    | [] => (touched, .ok ())
    | first :: _ =>
      match first.textError? with
      | some e => (touched, .error e)
      | none => touched.change now opened (Statement.runAll statements)

/-! ### Statistics stores -/

/-- Why a statistics store cannot be set up. -/
inductive SetupError where
  /-- Its directory cannot be made. -/
  | file (e : FileError)
  /-- Its database refuses. -/
  | database (e : DatabaseError)
deriving DecidableEq

/-- The wording of an error. -/
def SetupError.message : SetupError → String
  | .file e => e.message
  | .database e => e.message

/-- Makes the directory of a file. -/
def makeParent (fs : FileSystem) (path : String) : FileSystem × Except FileError Unit :=
  match Path.parent? path with
  | none => (fs, .ok ())
  | some directory => fs.makeDirectories directory

/-- Changes a statistics store, which is set up first where anything is missing. -/
def withStore {α : Type} (fs : FileSystem) (now : Instant) (path : String)
    (f : Database → Database × Except DatabaseError α) : FileSystem × Except SetupError α :=
  match fs.makeParent path with
  | (fs, .error e) => (fs, .error (.file e))
  | (fs, .ok _) =>
    match fs.resolve .creating path with
    | .error e => (fs, .error (.database e))
    | .ok opened =>
      let (fs, result) := (fs.touch now opened).change now opened fun db => f db.initialised
      (fs, result.mapError .database)

/-- Sets a statistics store up. -/
def initStore (fs : FileSystem) (now : Instant) (path : String) :
    FileSystem × Except SetupError Unit :=
  fs.withStore now path fun db => (db, .ok ())

/-- The id of a source in a statistics store, which is put in if it is new. -/
def lookupSource (fs : FileSystem) (now : Instant) (path host : String) (port : Int)
    (dcid : String) : FileSystem × Except SetupError Int :=
  fs.withStore now path fun db =>
    match db.lookupSource host port dcid with
    | .ok (db, id) => (db, .ok id)
    | .error e => (db, .error e)

end FileSystem

end NodeReport

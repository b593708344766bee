import NodeReport.Proofs.Store.Place
import NodeReport.Proofs.Store.Reading

/-! # Keeping a database in a file

  As long as nothing interferes, a database that is kept in a file is what its last change has left:
  it is opened again as it was put back, with nothing to take back first. A first change makes the
  file.

  * `IsVacant.finds`: the first change of a store makes its file;
  * `Keeps.finds`, `Keeps.execute`: a later change is one of the database that is kept;
  * `Keeps.openDatabase`: what is kept can be read.
-/

namespace NodeReport

/-- Whether a path names a file, and is neither an address nor the name of what is not kept. -/
structure Path.NamesFile (path : String) : Prop where
  /-- It has no byte of value zero. -/
  noNul : DatabaseAddress.nulPosition? path = none
  /-- It is no address. -/
  noScheme : DatabaseAddress.afterScheme? path.toList = none
  /-- It is not empty. -/
  nonempty : path ≠ ""
  /-- It does not stand for memory. -/
  notMemory : path ≠ ":memory:"
  /-- It does not end with a slash. -/
  unslashed : Path.isSlashed path = false

namespace FileSystem

open NodeReport.Path (NamesFile)

/-- Whether a path leads to a place where a database can be kept. -/
structure IsUsable (fs : FileSystem) (path : String) (place : Place) : Prop where
  /-- The path names a file. -/
  namesFile : NamesFile path
  /-- The directory of the file is there. -/
  parent : ∀ directory, Path.parent? path = some directory →
    (Path.components directory).isEmpty = false → fs.isDirectory directory = true
  /-- The path can be followed. -/
  leads : fs.follow path (Path.names path) = .ok place
  /-- The way is not too long for a database. -/
  short : place.size ≤ waySizeLimit
  /-- Changes can be prepared. -/
  canPrepare : fs.canPrepare place = true
  /-- No directory is in the log's place. -/
  noLog : fs.at? (logOf place) ≠ some .directory

/-- Whether a file at a path keeps a database, with nothing beside it to take back. -/
structure Keeps (fs : FileSystem) (path : String) (place : Place) (db : Database) : Prop where
  /-- The path can be used. -/
  usable : fs.IsUsable path place
  /-- The file. -/
  file : ∃ modified, fs.at? place = some (.file (.database db) modified)
  /-- There is no journal. -/
  journal : fs.at? (journalOf place) = none
  /-- It may be read and changed. -/
  allowed : ∀ right, fs.allows right place = true
  /-- There is nothing in a log. -/
  log : fs.isFilled (logOf place) = false

/-- Whether a store can be kept at a path where there is none yet: once its directory is made, the
    path leads to a place where nothing stands and a file can be made. -/
structure IsVacant (fs : FileSystem) (path : String) (place : Place) : Prop where
  /-- The path names a file. -/
  namesFile : NamesFile path
  /-- The directory can be made. -/
  made : (fs.makeParent path).2 = .ok ()
  /-- The path can be followed then. -/
  leads : (fs.makeParent path).1.follow path (Path.names path) = .ok place
  /-- The way is not too long for a database. -/
  short : place.size ≤ waySizeLimit
  /-- Nothing stands there. -/
  absent : (fs.makeParent path).1.at? place = none
  /-- Changes can be prepared. -/
  canPrepare : (fs.makeParent path).1.canPrepare place = true
  /-- No directory is in the log's place. -/
  noLog : (fs.makeParent path).1.at? (logOf place) ≠ some .directory

/-- Whether the next change of the store at a path finds this database, and leaves what the change
    makes of it. -/
def Finds (fs : FileSystem) (path : String) (place : Place) (db : Database) : Prop :=
  ∀ (α : Type) (now : Instant) (f : Database → Database × Except DatabaseError α), (f db).1 ≠ {} →
    ∃ after, fs.withStore now path f = (after, (f db).2.mapError .database) ∧
      after.Keeps path place (f db).1

variable {fs after : FileSystem} {now : Instant} {path : String} {place : Place} {db : Database}

/-- What the next change makes of the database that it finds is kept. -/
theorem Finds.withStore {α : Type} {f : Database → Database × Except DatabaseError α}
    {changed : Database} {result : Except DatabaseError α} (h : fs.Finds path place db)
    (hf : f db = (changed, result)) (hchanged : changed ≠ {}) (now : Instant) :
    ∃ after, fs.withStore now path f = (after, result.mapError .database) ∧
      after.Keeps path place changed := by
  have hfound := h α now f
  rw [hf] at hfound
  exact hfound hchanged

/-- Setting a store up again keeps the database that is found. -/
theorem Finds.initStore (h : fs.Finds path place db) (hdb : db ≠ {}) (now : Instant) :
    ∃ after, fs.initStore now path = (after, .ok ()) ∧ after.Keeps path place db :=
  h Unit now (fun db => (db, .ok ())) hdb

/-- A lookup keeps what becomes of the database that is found. -/
theorem Finds.lookupSource {host dcid : String} {port id : Int} {changed : Database}
    (h : fs.Finds path place db) (hlookup : db.lookupSource host port dcid = .ok (changed, id))
    (hchanged : changed ≠ {}) (now : Instant) :
    ∃ after, fs.lookupSource now path host port dcid = (after, .ok id) ∧
      after.Keeps path place changed := by
  have hstore : ∃ after, fs.lookupSource now path host port dcid =
      (after, (Except.ok id).mapError .database) ∧ after.Keeps path place changed :=
    h.withStore (by rw [hlookup]) hchanged now
  exact hstore

/-- A lookup that fails keeps the database as it is found. -/
theorem Finds.lookupSource_error {host dcid : String} {port : Int} {e : DatabaseError}
    (h : fs.Finds path place db) (hlookup : db.lookupSource host port dcid = .error e)
    (hdb : db ≠ {}) (now : Instant) :
    ∃ after, fs.lookupSource now path host port dcid = (after, .error (.database e)) ∧
      after.Keeps path place db := by
  have hstore : ∃ after, fs.lookupSource now path host port dcid =
      (after, (Except.error e).mapError .database) ∧ after.Keeps path place db :=
    h.withStore (by rw [hlookup]) hdb now
  exact hstore

/-! ### Opening -/

/-- A path that names a file is its own address. -/
theorem ofPath_of_namesFile (h : NamesFile path) (access : Access) :
    DatabaseAddress.ofPath access path = .ok ⟨path, access⟩ := by
  unfold DatabaseAddress.ofPath
  simp only [h.noNul, h.noScheme]

theorem isForgotten_of_namesFile (h : NamesFile path) {access : Access}
    (haccess : access ≠ .forgotten) :
    DatabaseAddress.isForgotten ⟨path, access⟩ = false := by
  unfold DatabaseAddress.isForgotten
  rw [beq_eq_false_iff_ne.mpr haccess, beq_eq_false_iff_ne.mpr h.nonempty,
    beq_eq_false_iff_ne.mpr h.notMemory]
  rfl

/-- A usable path is resolved to its place, if the file there may be opened and changed. -/
theorem IsUsable.resolve (h : fs.IsUsable path place) {access : Access}
    (haccess : access ≠ .forgotten) (hopen : fs.canOpen place access = true)
    (hwrite : fs.canWrite place = true) :
    fs.resolve access path = .ok (.file place (access == .readOnly)) := by
  have hplace := (databasePlace?_of_follow h.leads h.short).2
  unfold FileSystem.resolve
  simp only [ofPath_of_namesFile h.namesFile access, bind, Except.bind,
    isForgotten_of_namesFile h.namesFile haccess, hplace, hopen, hwrite, Bool.not_true,
    Bool.or_false]
  rfl

/-- What is used already needs no directory. -/
theorem IsUsable.makeParent (h : fs.IsUsable path place) : fs.makeParent path = (fs, .ok ()) := by
  unfold FileSystem.makeParent
  cases hparent : Path.parent? path with
  | none => rfl
  | some directory => exact makeDirectories_of_isDirectory (h.parent directory hparent)

/-- A change of files alone keeps a path usable, if changes can still be prepared. -/
theorem IsUsable.of_sameExcept (h : fs.IsUsable path place)
    {left : Place → Option FileNode → Prop} (hsame : fs.SameExcept after left)
    (hcan : after.canPrepare place = true) : after.IsUsable path place where
  namesFile := h.namesFile
  parent := by
    intro directory hparent hcomponents
    obtain ⟨target, hleads, hat⟩ := isDirectory_iff.mp (h.parent directory hparent hcomponents)
    exact isDirectory_iff.mpr
      ⟨target, hsame.follow_iff.mpr hleads, (hsame.directory_iff target).mpr hat⟩
  leads := hsame.follow_iff.mpr h.leads
  short := h.short
  canPrepare := hcan
  noLog := fun hdirectory => h.noLog ((hsame.directory_iff _).mp hdirectory)

/-! ### The files beside a database -/

theorem journalOf_ne_self (place : Place) : journalOf place ≠ place :=
  Place.beside_ne_self (by decide)

theorem logOf_ne_self (place : Place) : logOf place ≠ place :=
  Place.beside_ne_self (by decide)

theorem logOf_ne_journalOf (place : Place) : logOf place ≠ journalOf place := by
  intro h
  exact absurd (Place.beside_inj h) (by decide)

theorem allows_all_iff : (∀ right, fs.allows right place = true) ↔
    fs.allows .read place = true ∧ fs.allows .write place = true := by
  constructor
  · intro h
    exact ⟨h .read, h .write⟩
  · intro h right
    cases right with
    | read => exact h.1
    | write => exact h.2

/-- What it takes to prepare a change: a journal can be made, or the one that is there can be
    used. -/
theorem canPrepare_iff : fs.canPrepare place = true ↔
    isShort (journalOf place) = true ∧ fs.allows .write place.up = true ∧
      fs.at? (journalOf place) ≠ some .directory ∧
      ((fs.at? (journalOf place)).isSome = true →
        ∀ right, fs.allows right (journalOf place) = true) := by
  unfold canPrepare prepareError?
  cases isShort (journalOf place) with
  | false => simp
  | true =>
    cases hjournal : fs.at? (journalOf place) with
    | none => cases fs.allows .write place.up <;> simp
    | some node =>
      cases node with
      | directory => simp
      | file content modified =>
        rw [allows_all_iff]
        dsimp only
        cases fs.allows .read (journalOf place) <;> cases fs.allows .write (journalOf place)
          <;> cases fs.allows .write place.up <;> simp

/-- Changes can still be prepared if nothing but the journal was taken away, and no rights. -/
theorem canPrepare_of_keepsRights (h : fs.canPrepare place = true) (hrights : fs.KeepsRights after)
    (hjournal : after.at? (journalOf place) = fs.at? (journalOf place) ∨
      after.at? (journalOf place) = none) : after.canPrepare place = true := by
  obtain ⟨hshort, hwrite, hnot, hallowed⟩ := canPrepare_iff.mp h
  refine canPrepare_iff.mpr ⟨hshort, hrights _ _ hwrite, ?_⟩
  rcases hjournal with hsame | hnone
  · rw [hsame]
    exact ⟨hnot, fun hsome right => hrights _ _ (hallowed hsome right)⟩
  · rw [hnone]
    exact ⟨nofun, nofun⟩

/-- The journal's place can be used for a file. -/
theorem IsUsable.journal_ne_directory (h : fs.IsUsable path place) :
    fs.at? (journalOf place) ≠ some .directory :=
  (canPrepare_iff.mp h.canPrepare).2.2.1

namespace Keeps

theorem ne_directory (h : fs.Keeps path place db) : fs.at? place ≠ some .directory := by
  obtain ⟨modified, hfile⟩ := h.file
  rw [hfile]
  exact nofun

theorem resolve (h : fs.Keeps path place db) {access : Access} (haccess : access ≠ .forgotten) :
    fs.resolve access path = .ok (.file place (access == .readOnly)) := by
  obtain ⟨modified, hfile⟩ := h.file
  apply h.usable.resolve haccess
  · unfold canOpen
    rw [hfile]
    exact h.allowed .read
  · unfold canWrite
    rw [hfile]
    exact h.allowed .write

/-- What is kept is found without a log. -/
theorem isLogged (h : fs.Keeps path place db) : fs.isLogged place (.database db) = false := by
  unfold FileSystem.isLogged
  rw [h.log, Bool.and_false]
  rfl

/-- There is no journal with a change to take back. -/
theorem journalError? (h : fs.Keeps path place db) (readOnly : Bool) :
    fs.journalError? place readOnly = none := by
  unfold FileSystem.journalError?
  rw [h.journal]

/-- Nothing beside a database that is kept stands in the way. -/
theorem besideError? (h : fs.Keeps path place db) (readOnly : Bool) :
    fs.besideError? place (.database db) readOnly = none := by
  unfold FileSystem.besideError?
  rw [h.journalError?, h.isLogged]
  rfl

/-- A log with nothing in it has no part in what is found. -/
theorem databaseAt (h : fs.Keeps path place db) :
    fs.databaseAt place (.database db) = .ok db := by
  have hlog := h.log
  unfold FileSystem.databaseAt isFilled at *
  split
  · rename_i hat
    rw [hat] at hlog
    cases hlog
  · rfl

theorem load (h : fs.Keeps path place db) (readOnly : Bool) :
    fs.load (.file place readOnly) = .ok db := by
  obtain ⟨modified, hfile⟩ := h.file
  have hcontent : fs.contentAt? place = some (.database db) := by
    unfold contentAt?
    rw [hfile]
  unfold FileSystem.load
  simp only [hcontent, h.besideError? readOnly, h.databaseAt]

/-- What is kept is found and read. -/
theorem openDatabase (h : fs.Keeps path place db) :
    ∃ modified, fs.openDatabase path = .ok (db, modified) := by
  obtain ⟨modified, hfile⟩ := h.file
  have hfind : fs.find path = .ok (place, .file (.database db) modified) := by
    unfold find
    simp only [h.usable.leads, bind, Except.bind, hfile, h.usable.namesFile.unslashed]
    rfl
  have hresolve : fs.resolve .readOnly path = .ok (.file place true) := h.resolve (by decide)
  refine ⟨modified, ?_⟩
  unfold FileSystem.openDatabase
  simp only [hfind, hresolve, bind, Except.bind, h.load]

/-- There is nothing to take back. -/
theorem settleFor (h : fs.Keeps path place db) (now : Instant) :
    fs.settleFor now (.file place false) = fs := by
  obtain ⟨modified, hfile⟩ := h.file
  rw [settleFor_of_file hfile, if_neg Bool.false_ne_true]
  have hjournal : fs.eraseIf (journalOf place) FileContent.isUnfinished = fs := by
    unfold eraseIf
    rw [h.journal]
    rfl
  have hleave : fs.leaveIndex now place (.database db) = fs := by
    unfold leaveIndex
    rw [h.isLogged]
    rfl
  unfold settle
  simp only [hjournal, hleave, h.journalError?, h.isLogged]
  rfl

end Keeps

/-! ### Putting back -/

/-- A database that is put into the file is kept, if there is nothing in a log. -/
theorem keeps_put (h : fs.IsUsable path place) (hfile : fs.at? place ≠ some .directory)
    (hallowed : ∀ right, fs.allows right place = true)
    (hlog : fs.isFilled (logOf place) = false) (db : Database) (now : Instant) :
    ((fs.erase (journalOf place)).put place (.file (.database db) now)).Keeps path place db := by
  have herase : fs.SameExcept (fs.erase (journalOf place)) fun _ _ => True :=
    SameExcept.erase h.journal_ne_directory trivial
  have hfile' : (fs.erase (journalOf place)).at? place ≠ some .directory :=
    fun hdirectory => hfile ((herase.directory_iff place).mp hdirectory)
  have hput : (fs.erase (journalOf place)).SameExcept
      ((fs.erase (journalOf place)).put place (.file (.database db) now)) fun _ _ => True :=
    SameExcept.put hfile' trivial
  have hrights : fs.KeepsRights
      ((fs.erase (journalOf place)).put place (.file (.database db) now)) :=
    (KeepsRights.erase fs _).trans (KeepsRights.put _ _ _)
  have hjournal : ((fs.erase (journalOf place)).put place (.file (.database db) now)).at?
      (journalOf place) = none := by
    rw [at?_put_of_ne (journalOf_ne_self place)]
    exact at?_erase_self (isGiven_eq_false h.journal_ne_directory)
  refine ⟨h.of_sameExcept (herase.trans hput)
    (canPrepare_of_keepsRights h.canPrepare hrights (.inr hjournal)), ⟨now, ?_⟩, hjournal,
    fun right => hrights _ _ (hallowed right), ?_⟩
  · exact at?_put_self (isGiven_eq_false hfile')
  · unfold isFilled
    rw [at?_put_of_ne (logOf_ne_self place), at?_erase_of_ne (logOf_ne_journalOf place)]
    exact hlog

/-- A change that is prepared in the journal is put back. -/
theorem save_of_canPrepare {settled : FileSystem} (hlogs : fs.logs (.file place false) = false)
    (h : settled.canPrepare place = true) (now : Instant) (db : Database) :
    fs.save settled now db (.file place false) =
      .ok ((settled.erase (journalOf place)).put place (.file (.database db) now)) := by
  have hprepare : settled.prepareError? place = none := Option.isNone_iff_eq_none.mp h
  unfold save
  simp only [hlogs, hprepare]
  rfl

namespace Keeps

/-- A change of a database that is kept is a change of the database. -/
theorem change {α : Type} (h : fs.Keeps path place db) (now : Instant)
    (f : Database → Database × Except DatabaseError α) :
    ∃ after, fs.change now (.file place false) f = (after, (f db).2) ∧
      after.Keeps path place (f db).1 := by
  obtain ⟨modified, hfile⟩ := h.file
  have hlogs : fs.logs (.file place false) = false := by
    unfold logs
    simp only [hfile, h.isLogged]
  unfold FileSystem.change
  simp only [h.settleFor, h.load, save_of_canPrepare hlogs h.usable.canPrepare]
  by_cases hsame : (f db).1 = db
  · -- what is not changed is not put back
    rw [if_pos hsame, hsame]
    exact ⟨fs, rfl, h⟩
  · rw [if_neg hsame]
    exact ⟨_, rfl, keeps_put h.usable h.ne_directory h.allowed h.log _ now⟩

/-- A change of a store that is kept finds its database, set up again. -/
theorem finds (h : fs.Keeps path place db) : fs.Finds path place db.initialised := by
  intro α now f _
  obtain ⟨modified, hfile⟩ := h.file
  obtain ⟨after, hchange, hafter⟩ := h.change now fun db => f db.initialised
  have hresolve : fs.resolve .creating path = .ok (.file place false) := h.resolve (by decide)
  refine ⟨after, ?_, hafter⟩
  unfold FileSystem.withStore
  simp only [h.usable.makeParent, hresolve, touch_of_some hfile, hchange]

/-- Statements on a database that is kept change the database as they do, unless the text of the
    first is refused. -/
theorem execute (h : fs.Keeps path place db) (now : Instant) (statements : List Statement) :
    (fs.execute now path statements).1.Keeps path place db ∨
      (fs.execute now path statements).1.Keeps path place (Statement.runAll statements db).1 := by
  obtain ⟨modified, hfile⟩ := h.file
  have hresolve : fs.resolve .creating path = .ok (.file place false) := h.resolve (by decide)
  unfold FileSystem.execute
  simp only [hresolve, touch_of_some hfile]
  cases statements with
  | nil => exact .inl h
  | cons first rest =>
    dsimp only
    split
    · -- the database is not even read
      exact .inl h
    · obtain ⟨after, hchange, hafter⟩ := h.change now (Statement.runAll (first :: rest))
      rw [hchange]
      exact .inr hafter

end Keeps

/-! ### The first change -/

theorem at?_eraseIf (fs : FileSystem) (place : Place) (p : FileContent → Bool) :
    (fs.eraseIf place p).at? place = fs.at? place ∨ (fs.eraseIf place p).at? place = none := by
  unfold eraseIf
  split
  · rename_i hholds
    exact .inr (at?_erase_self (isGiven_eq_false (ne_directory_of_holds hholds)))
  · exact .inl rfl

theorem at?_eraseIf_of_ne {other : Place} (h : other ≠ place) {p : FileContent → Bool} :
    (fs.eraseIf place p).at? other = fs.at? other := by
  unfold eraseIf
  split
  · exact at?_erase_of_ne h
  · rfl

theorem KeepsRights.eraseIf (fs : FileSystem) (place : Place) (p : FileContent → Bool) :
    fs.KeepsRights (fs.eraseIf place p) := by
  unfold FileSystem.eraseIf
  split
  · exact KeepsRights.erase fs place
  · exact KeepsRights.refl fs

/-- What is taken away is not there any more. -/
theorem isFilled_eraseIf (h : fs.at? place ≠ some .directory) :
    (fs.eraseIf place FileContent.isNonempty).isFilled place = false := by
  unfold eraseIf isFilled
  by_cases hholds : (fs.at? place).any (FileNode.holds FileContent.isNonempty) = true
  · rw [if_pos hholds, at?_erase_self (isGiven_eq_false h)]
    rfl
  · rw [if_neg hholds]
    cases hat : fs.at? place with
    | none => rfl
    | some node =>
      rw [hat] at h hholds
      cases node with
      | directory => exact absurd rfl h
      | file content modified => exact Bool.eq_false_iff.mpr hholds

section blank

variable {modified : Instant}

/-- Nothing stands in the way of a blank file at a path that can be used. -/
theorem IsUsable.removalError? (h : fs.IsUsable path place) : fs.removalError? place = none := by
  have hwrite := (canPrepare_iff.mp h.canPrepare).2.1
  unfold FileSystem.removalError?
  rw [if_neg h.noLog, hwrite, Bool.not_true, Bool.and_false]
  rfl

/-- A blank file is taken for a database without tables. -/
theorem IsUsable.load_blank (h : fs.IsUsable path place)
    (hfile : fs.at? place = some (.file (.text "") modified)) :
    fs.load (.file place false) = .ok {} := by
  have hcontent : fs.contentAt? place = some (.text "") := by
    unfold contentAt?
    rw [hfile]
  have hbeside : fs.besideError? place (.text "") false = none := h.removalError?
  unfold load
  simp only [hcontent, hbeside]
  rfl

/-- A journal and a log beside a blank file are of another database, and go. -/
theorem IsUsable.settleFor_blank (h : fs.IsUsable path place)
    (hfile : fs.at? place = some (.file (.text "") modified)) (now : Instant) :
    fs.settleFor now (.file place false) =
      (fs.eraseIf (journalOf place) FileContent.isNonempty).eraseIf (logOf place)
        FileContent.isNonempty := by
  obtain ⟨-, hwrite, -⟩ := canPrepare_iff.mp h.canPrepare
  have hjournal : fs.SameExcept (fs.eraseIf (journalOf place) FileContent.isNonempty)
      fun _ _ => True := SameExcept.eraseIf fun _ => trivial
  have hafter := h.of_sameExcept hjournal (canPrepare_of_keepsRights h.canPrepare
    (KeepsRights.eraseIf _ _ _) (at?_eraseIf _ _ _))
  have hleave : (fs.eraseIf (journalOf place) FileContent.isNonempty).leaveIndex now place
      (.text "") = (fs.eraseIf (journalOf place) FileContent.isNonempty).eraseIf (logOf place)
        FileContent.isNonempty := by
    unfold leaveIndex
    rw [hafter.removalError?]
    rfl
  rw [settleFor_of_file hfile, if_neg Bool.false_ne_true, ← hleave]
  unfold settle
  rw [hwrite]
  rfl

/-- A change of a blank file is one of a database without tables, whatever was left beside it. -/
theorem change_blank {α : Type} (h : fs.IsUsable path place)
    (hfile : fs.at? place = some (.file (.text "") modified))
    (hallowed : ∀ right, fs.allows right place = true) (now : Instant)
    (f : Database → Database × Except DatabaseError α) (hf : (f {}).1 ≠ {}) :
    ∃ after, fs.change now (.file place false) f = (after, (f {}).2) ∧
      after.Keeps path place (f {}).1 := by
  have hlogs : fs.logs (.file place false) = false := by
    unfold logs
    simp only [hfile]
    rfl
  have hjournal : fs.SameExcept (fs.eraseIf (journalOf place) FileContent.isNonempty)
      fun p _ => p ≠ place := SameExcept.eraseIf fun _ => journalOf_ne_self place
  have hsame : fs.SameExcept (fs.settleFor now (.file place false)) fun p _ => p ≠ place := by
    rw [h.settleFor_blank hfile]
    exact hjournal.trans (SameExcept.eraseIf fun _ => logOf_ne_self place)
  have hrights : fs.KeepsRights (fs.settleFor now (.file place false)) := by
    rw [h.settleFor_blank hfile]
    exact (KeepsRights.eraseIf _ _ _).trans (KeepsRights.eraseIf _ _ _)
  have hcan : (fs.settleFor now (.file place false)).canPrepare place = true := by
    refine canPrepare_of_keepsRights h.canPrepare hrights ?_
    rw [h.settleFor_blank hfile, at?_eraseIf_of_ne (logOf_ne_journalOf place).symm]
    exact at?_eraseIf _ _ _
  have hlog : (fs.settleFor now (.file place false)).isFilled (logOf place) = false := by
    rw [h.settleFor_blank hfile]
    exact isFilled_eraseIf fun hdirectory => h.noLog ((hjournal.directory_iff _).mp hdirectory)
  have hnot : (fs.settleFor now (.file place false)).at? place ≠ some .directory := by
    intro hdirectory
    rw [(hsame.directory_iff place).mp hdirectory] at hfile
    cases hfile
  unfold FileSystem.change
  simp only [h.load_blank hfile, save_of_canPrepare hlogs hcan]
  rw [if_neg hf]
  exact ⟨_, rfl, keeps_put (h.of_sameExcept hsame hcan) hnot
    (fun right => hrights _ _ (hallowed right)) hlog _ now⟩

end blank

/-- A vacant path can be used once its directory is made. -/
theorem IsVacant.usable (h : fs.IsVacant path place) :
    (fs.makeParent path).1.IsUsable path place where
  namesFile := h.namesFile
  parent := by
    intro directory hparent hcomponents
    have hmade := h.made
    unfold makeParent at hmade ⊢
    rw [hparent] at hmade ⊢
    exact makeDirectories_eq_ok (Prod.ext rfl hmade) hcomponents
  leads := h.leads
  short := h.short
  canPrepare := h.canPrepare
  noLog := h.noLog

/-- The first change of a store makes its file and finds an empty database, set up. -/
theorem IsVacant.finds (h : fs.IsVacant path place) :
    fs.Finds path place ({} : Database).initialised := by
  intro α now f hf
  obtain ⟨ready, hready⟩ : ∃ ready, fs.makeParent path = (ready, .ok ()) :=
    ⟨_, Prod.ext rfl h.made⟩
  have husable := h.usable
  have habsent := h.absent
  rw [hready] at husable habsent
  -- the file is made empty before it is taken for a database
  have hwrite : ready.canWrite place = true := by
    unfold canWrite
    rw [habsent]
    exact (canPrepare_iff.mp husable.canPrepare).2.1
  have hopen : ready.canOpen place .creating = true := by
    unfold canOpen
    rw [habsent, (databasePlace?_of_follow husable.leads husable.short).1, hwrite]
    rfl
  have hresolve : ready.resolve .creating path = .ok (.file place false) :=
    husable.resolve (by decide) hopen hwrite
  have hnot : ready.at? place ≠ some .directory := by
    rw [habsent]
    exact nofun
  have htouch : ready.SameExcept (ready.put place (.file (.text "") now)) fun _ _ => True :=
    SameExcept.put hnot trivial
  have hcan := canPrepare_of_keepsRights husable.canPrepare
    (KeepsRights.put ready place (.file (.text "") now))
    (.inl (at?_put_of_ne (journalOf_ne_self place)))
  obtain ⟨after, hchange, hafter⟩ := change_blank (husable.of_sameExcept htouch hcan)
    (at?_put_self (isGiven_eq_false hnot)) (allows_put_of_none habsent) now
    (fun db => f db.initialised) hf
  refine ⟨after, ?_, hafter⟩
  unfold FileSystem.withStore
  simp only [hready, hresolve, touch_of_none habsent, hchange]

end FileSystem

end NodeReport

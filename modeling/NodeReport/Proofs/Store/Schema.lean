import NodeReport.Proofs.Store.Calls

/-! # Stores with all of their tables

  A store that was set up has every table in its own shape, and no row of them is too short. Rows
  may be put in or refused, and sources looked up, in any order: this stays so, because nothing of
  it changes the shape of a table.

  * `Database.HasSchema`: what is kept;
  * `FileSystem.Keeps.change_hasSchema`: one change keeps it;
  * `FileSystem.IsVacant.changes_hasSchema`: so do changes one after another.
-/

namespace NodeReport

/-- Whether a database has every table of a store in its own shape, with full rows. -/
def Database.HasSchema (db : Database) : Prop :=
  ∀ shape ∈ Schema.shapes, ∃ t, db.table? shape.name = some t ∧ t.shape = shape ∧ t.IsFull

namespace Database.HasSchema

variable {db after : Database} {t : StoredTable} {name : String}

/-! ### Setting up -/

/-- A fresh store has every table, and no rows. -/
theorem fresh : Database.HasSchema Database.fresh := by
  have htables : ∀ shape ∈ Schema.shapes,
      Database.fresh.table? shape.name = some { shape := shape } := by decide +kernel
  intro shape hshape
  refine ⟨_, htables shape hshape, rfl, ?_⟩
  intro row hrow
  cases hrow

theorem complete (h : db.HasSchema) :
    ∀ shape ∈ Schema.shapes, (db.table? shape.name).isSome = true := by
  intro shape hshape
  obtain ⟨t, ht, -⟩ := h shape hshape
  rw [ht]
  rfl

theorem initialised (h : db.HasSchema) : db.initialised = db :=
  initialised_eq_self h.complete

theorem ne_empty (h : db.HasSchema) : db ≠ {} := by
  rintro rfl
  obtain ⟨t, ht, -⟩ := h Schema.source List.mem_cons_self
  cases ht

/-- The table of a kind. -/
theorem table?_ofKind (h : db.HasSchema) (kind : TableKind) :
    ∃ t, db.table? kind.storeName = some t ∧ t.shape = Schema.ofKind kind ∧ t.IsFull := by
  have hkind : kind ∈ TableKind.all := by
    cases kind <;> decide
  exact h (Schema.ofKind kind) (List.mem_cons_of_mem _ (List.mem_map.mpr ⟨kind, hkind, rfl⟩))

/-! ### Rows that are put in -/

/-- A row that is put into any table leaves all shapes as they are. -/
theorem insertInto (h : db.HasSchema) (ht : db.table? name = some t)
    {values : List StoredValue} {number : Int}
    (hvalues : values.length = t.shape.columns.length)
    (hinsert : db.insertInto t values = .ok (after, number)) : after.HasSchema := by
  intro shape hshape
  obtain ⟨changed, hchanged, htable⟩ := table?_insertInto hinsert (sameName_sequence hshape)
  obtain ⟨old, hold, holdShape, holdFull⟩ := h shape hshape
  rw [htable, table?_replace, hold]
  by_cases hname : sameName changed.shape.name shape.name = true
  · -- the table of this name is the one into which the row was put
    obtain ⟨hchangedShape, -⟩ := StoredTable.insertNumbered_eq_ok hchanged
    have hsame : some old = some t := by
      rw [← hold, ← ht, ← table?_congr hname, hchangedShape, table?_congr (sameName_of_table? ht)]
    cases hsame
    rw [if_pos hname]
    exact ⟨changed, rfl, hchangedShape.trans holdShape,
      holdFull.insertNumbered (Nat.le_of_eq hvalues.symm) hchanged⟩
  · -- every other table is the old one
    rw [if_neg hname]
    exact ⟨old, rfl, holdShape, holdFull⟩

theorem lookupSource (h : db.HasSchema) {host dcid : String} {port id : Int}
    (hlookup : db.lookupSource host port dcid = .ok (after, id)) : after.HasSchema := by
  rcases lookupSource_eq_ok hlookup with rfl | ⟨t, values, ht, hvalues, hinsert⟩
  · exact h
  · exact h.insertInto ht hvalues hinsert

theorem runInsert (h : db.HasSchema) {table : String} {values : List StoredValue}
    (hrun : (Statement.insert table values).run db = .ok after) : after.HasSchema := by
  unfold Statement.run at hrun
  split at hrun
  · cases hrun
  · obtain ⟨t, number, ht, hvalues, hinsert⟩ := insertRow_eq_ok hrun
    exact h.insertInto ht hvalues hinsert

/-- Rows that are put in one after another do so too, also if one of them is refused. -/
theorem runAll_insertAll (h : db.HasSchema) (table : String) (rows : List (List StoredValue)) :
    (Statement.runAll (Statement.insertAll table rows) db).1.HasSchema := by
  induction rows generalizing db with
  | nil => exact h
  | cons values rest ih =>
    show (Statement.runAll (.insert table values :: Statement.insertAll table rest) db).1.HasSchema
    unfold Statement.runAll
    split
    · rename_i next hrun
      exact ih (h.runInsert hrun)
    · -- the rows before the one that is refused stay
      exact h

end Database.HasSchema

/-! ### Changes of a store -/

/-- A change of a store that was set up. -/
inductive StoreChange where
  /-- It is set up again, and a source may be looked up. -/
  | setup (call : SetupCall)
  /-- Rows are put into a table, up to the first that is refused. -/
  | insert (table : String) (rows : List (List StoredValue))

namespace FileSystem

variable {fs : FileSystem} {path : String} {place : Place} {db : Database}

/-- The tree after a change of the store at a path, whether it fails or not. -/
def afterChange (fs : FileSystem) (now : Instant) (path : String) : StoreChange → FileSystem
  | .setup c => (fs.call now path c).1
  | .insert table rows => (fs.execute now path (Statement.insertAll table rows)).1

/-- The tree after changes, each at its own time. -/
def afterChanges (fs : FileSystem) (path : String) (changes : List (Instant × StoreChange)) :
    FileSystem :=
  changes.foldl (fun fs change => fs.afterChange change.1 path change.2) fs

/-- A call keeps all tables, whether it fails or not. -/
theorem call_hasSchema (hfinds : fs.Finds path place db) (h : db.HasSchema) (now : Instant)
    (c : SetupCall) :
    ∃ db', (fs.call now path c).1.Keeps path place db' ∧ db'.HasSchema := by
  cases c with
  | init =>
    obtain ⟨after, hafter, hkeeps⟩ := hfinds.initStore h.ne_empty now
    simp only [call, hafter]
    exact ⟨db, hkeeps, h⟩
  | lookup key =>
    cases hlookup : db.lookupSource key.host key.port key.dcid with
    | ok result =>
      obtain ⟨db', id⟩ := result
      have hdb' := h.lookupSource hlookup
      obtain ⟨after, hafter, hkeeps⟩ := hfinds.lookupSource hlookup hdb'.ne_empty now
      simp only [call, hafter]
      exact ⟨db', hkeeps, hdb'⟩
    | error e =>
      obtain ⟨after, hafter, hkeeps⟩ := hfinds.lookupSource_error hlookup h.ne_empty now
      simp only [call, hafter]
      exact ⟨db, hkeeps, h⟩

/-- One change keeps all tables. -/
theorem Keeps.change_hasSchema (h : fs.Keeps path place db) (hdb : db.HasSchema) (now : Instant)
    (change : StoreChange) :
    ∃ db', (fs.afterChange now path change).Keeps path place db' ∧ db'.HasSchema := by
  cases change with
  | setup c =>
    -- setting up a database with all tables changes nothing
    have hfinds := h.finds
    rw [hdb.initialised] at hfinds
    exact call_hasSchema hfinds hdb now c
  | insert table rows =>
    rcases h.execute now (Statement.insertAll table rows) with hkeeps | hkeeps
    · exact ⟨db, hkeeps, hdb⟩
    · exact ⟨_, hkeeps, hdb.runAll_insertAll table rows⟩

theorem Keeps.changes_hasSchema (h : fs.Keeps path place db) (hdb : db.HasSchema)
    (changes : List (Instant × StoreChange)) :
    ∃ db', (fs.afterChanges path changes).Keeps path place db' ∧ db'.HasSchema := by
  induction changes generalizing fs db with
  | nil => exact ⟨db, h, hdb⟩
  | cons first rest ih =>
    obtain ⟨next, hnext, hdbNext⟩ := h.change_hasSchema hdb first.1 first.2
    exact ih hnext hdbNext

/-- Whatever changes follow on setting a store up, it can be read and has all tables. -/
theorem IsVacant.changes_hasSchema (h : fs.IsVacant path place) (now : Instant)
    (changes : List (Instant × StoreChange)) :
    ∃ db modified, ((fs.initStore now path).1.afterChanges path changes).openDatabase path =
      .ok (db, modified) ∧ db.HasSchema := by
  have hfinds := h.finds
  rw [Database.initialised_empty] at hfinds
  obtain ⟨set, hset, hdbSet⟩ := call_hasSchema hfinds Database.HasSchema.fresh now .init
  obtain ⟨db, hkeeps, hdb⟩ := hset.changes_hasSchema hdbSet changes
  obtain ⟨modified, hopen⟩ := hkeeps.openDatabase
  exact ⟨db, modified, hopen, hdb⟩

end FileSystem

end NodeReport

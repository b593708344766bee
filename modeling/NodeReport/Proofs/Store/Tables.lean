import NodeReport.Proofs.Store.Conversion
import NodeReport.Proofs.Store.Select

/-! # Tables by their names

  A database finds its tables by name, up to the case of letters. What one change does to the table
  of one name can therefore be said for each name on its own, and the tables of other names stay.
-/

namespace NodeReport

/-! ### Names -/

theorem sameName_iff {a b : String} :
    sameName a b = true ↔ a.toList.map Char.toLower = b.toList.map Char.toLower :=
  beq_iff_eq

theorem sameName_comm (a b : String) : sameName a b = sameName b a := by
  rw [Bool.eq_iff_iff, sameName_iff, sameName_iff]
  exact eq_comm

/-- The same names have the same names as others. -/
theorem sameName_congr {a b : String} (h : sameName a b = true) (name : String) :
    sameName name a = sameName name b := by
  rw [Bool.eq_iff_iff, sameName_iff, sameName_iff, sameName_iff.mp h]

/-! ### Full rows -/

namespace StoredTable

/-- Every row has a value for each column. -/
def IsFull (t : StoredTable) : Prop :=
  ∀ row ∈ t.rows, row.length = t.shape.columns.length

/-- What is converted has a value for each column, if there were enough values. -/
theorem length_converted {columns : List Column} {values : List StoredValue}
    (h : columns.length ≤ values.length) : (converted columns values).length = columns.length := by
  unfold converted
  rw [List.length_map, List.length_zip, Nat.min_eq_left h]

theorem IsFull.insertNumbered {t after : StoredTable} {last number : Int}
    {values : List StoredValue} (ht : t.IsFull) (hvalues : t.shape.columns.length ≤ values.length)
    (h : t.insertNumbered last values = .ok (after, number)) : after.IsFull := by
  obtain ⟨hshape, given, hlength, hrows⟩ := insertNumbered_eq_ok h
  intro row hrow
  rw [hshape]
  rcases (hrows row).mp hrow with rfl | hmem
  · exact length_converted (Nat.le_trans hvalues hlength)
  · exact ht row hmem

end StoredTable

namespace Database

variable {db after : Database} {t : StoredTable} {name other : String}

/-! ### Tables of a name -/

theorem sameName_of_table? (h : db.table? name = some t) : sameName t.shape.name name = true := by
  unfold table? at h
  have hfound := List.find?_some h
  exact hfound

theorem table?_congr (h : sameName name other = true) : db.table? name = db.table? other := by
  unfold table?
  congr 1
  funext t
  exact sameName_congr h t.shape.name

/-- A table takes the place of the one with its name. -/
theorem table?_replace (db : Database) (t : StoredTable) (name : String) :
    (db.replace t).table? name =
      if sameName t.shape.name name then (db.table? name).map fun _ => t else db.table? name := by
  -- what stands in place of a table has the same name
  have hname : ((fun other : StoredTable => sameName other.shape.name name) ∘
      fun old => if sameName old.shape.name t.shape.name then t else old) =
        fun old => sameName old.shape.name name := by
    funext old
    by_cases hold : sameName old.shape.name t.shape.name = true
    · rw [Function.comp_apply, if_pos hold, sameName_comm, ← sameName_congr hold, sameName_comm]
    · rw [Function.comp_apply, if_neg hold]
  have hfind : (db.replace t).table? name =
      (db.table? name).map fun old => if sameName old.shape.name t.shape.name then t else old := by
    unfold table? replace
    rw [List.find?_map, hname]
  rw [hfind]
  cases hname : db.table? name with
  | none => simp
  | some old =>
    rw [Option.map_some, Option.map_some, sameName_comm,
      sameName_congr (sameName_of_table? hname)]
    split
    · rfl
    · rfl

theorem table?_replace_of_ne (h : sameName t.shape.name name = false) :
    (db.replace t).table? name = db.table? name := by
  rw [table?_replace, h, if_neg Bool.false_ne_true]

/-- The table that a database has under a name is replaced by another one of the same name. -/
theorem table?_replace_self (h : (db.table? name).isSome = true)
    (hname : sameName t.shape.name name = true) : (db.replace t).table? name = some t := by
  obtain ⟨old, hold⟩ := Option.isSome_iff_exists.mp h
  rw [table?_replace, if_pos hname, hold]
  rfl

theorem table?_setRemembered {rows : List (List StoredValue)}
    (h : sameName Sequence.shape.name name = false) :
    (db.setRemembered rows).table? name = db.table? name :=
  table?_replace_of_ne h

/-! ### Remembered numbers -/

theorem remembered_replace (h : sameName t.shape.name Sequence.shape.name = false) :
    (db.replace t).remembered = db.remembered := by
  unfold remembered
  rw [table?_replace_of_ne h]

/-- What is remembered can be read again, if there is a table for it. -/
theorem remembered_setRemembered (h : (db.table? Sequence.shape.name).isSome = true)
    (rows : List (List StoredValue)) : (db.setRemembered rows).remembered = rows := by
  have htable : (db.setRemembered rows).table? Sequence.shape.name =
      some { shape := Sequence.shape, rows } :=
    table?_replace_self h (sameName_self Sequence.shape.name)
  unfold remembered
  rw [htable]
  rfl

/-! ### Setting up -/

/-- No table of a store is that of remembered numbers. -/
theorem sameName_sequence {shape : TableShape} (h : shape ∈ Schema.shapes) :
    sameName Sequence.shape.name shape.name = false := by
  revert shape
  decide

/-- A table that is there is not made again. -/
theorem addMissing_eq_self {shape : TableShape} (h : (db.table? shape.name).isSome = true) :
    db.addMissing shape = db := by
  unfold addMissing
  rw [if_pos h]

/-- Setting up a store that has all of its tables changes nothing. -/
theorem initialised_eq_self (h : ∀ shape ∈ Schema.shapes, (db.table? shape.name).isSome = true) :
    db.initialised = db := by
  unfold initialised
  generalize Schema.shapes = shapes at h
  induction shapes with
  | nil => rfl
  | cons shape rest ih =>
    rw [List.foldl_cons, addMissing_eq_self (h shape List.mem_cons_self)]
    exact ih fun other hother => h other (List.mem_cons_of_mem _ hother)

/-- The tables of a fresh store, all of them empty. -/
def fresh : Database where
  tables := { shape := Schema.source } :: { shape := Sequence.shape } ::
    TableKind.all.map fun kind => { shape := Schema.ofKind kind }

theorem initialised_empty : ({} : Database).initialised = fresh := by
  decide +kernel

/-! ### Rows that are put in -/

/-- A numbered row goes into its table, and its number is remembered. -/
theorem insertInto_numbered {changed : StoredTable} {values : List StoredValue} {number : Int}
    (hinsert : t.insertNumbered (Sequence.last t.shape.name db.remembered) values =
      .ok (changed, number))
    (hkey : changed.shape.key = .numbered)
    (hname : sameName changed.shape.name Sequence.shape.name = false) :
    db.insertInto t values = .ok ((db.replace changed).setRemembered
      (Sequence.remember changed.shape.name
        (max (Sequence.last t.shape.name db.remembered) number) db.remembered), number) := by
  unfold insertInto
  simp only [hinsert, hkey, bind, Except.bind, pure, Except.pure, remembered_replace hname]

/-- The table under any name but that of remembered numbers after a row was put in. -/
theorem table?_insertInto {values : List StoredValue} {number : Int}
    (h : db.insertInto t values = .ok (after, number))
    (hname : sameName Sequence.shape.name name = false) :
    ∃ changed, t.insertNumbered (Sequence.last t.shape.name db.remembered) values =
        .ok (changed, number) ∧ after.table? name = (db.replace changed).table? name := by
  obtain ⟨changed, hinsert, rfl⟩ := insertInto_eq_ok h
  refine ⟨changed, hinsert, ?_⟩
  split
  · exact table?_setRemembered hname
  · rfl

end Database

end NodeReport

import NodeReport.Proofs.Store.Value
import NodeReport.Store.ReportStore
import NodeReport.Store.Statement

/-! # Values as their columns hold them

  A row is converted when it is put in, and converting it again changes nothing. So every row of a
  table holds its values as the columns prefer them, whatever statements were run before.
-/

namespace NodeReport

namespace Affinity

theorem wholeReal_cases (x : Binary64) : wholeReal x = .real x ∨ ∃ n, wholeReal x = .integer n := by
  unfold wholeReal
  split
  · split
    · exact Or.inr ⟨_, rfl⟩
    · exact Or.inl rfl
  · exact Or.inl rfl

theorem apply_numeric_wholeReal (x : Binary64) :
    Affinity.numeric.apply (wholeReal x) = wholeReal x := by
  rcases wholeReal_cases x with h | ⟨n, h⟩
  · rw [h]
    exact h
  · rw [h]
    rfl

/-- A text that does not stay a text becomes a number. -/
theorem apply_text_cases (a : Affinity) (bytes : List UInt8) :
    a.apply (.text bytes) = .text bytes ∨ (a.apply (.text bytes)).rank = 1 := by
  cases a with
  | anything => exact Or.inl rfl
  | text => exact Or.inl rfl
  | numeric =>
    show (numberOf? bytes).getD (.text bytes) = _ ∨ ((numberOf? bytes).getD (.text bytes)).rank = 1
    unfold numberOf?
    simp only
    split
    · exact Or.inr rfl
    · cases DecimalNumber.read? _ with
      | none => exact Or.inl rfl
      | some d =>
        right
        show (wholeReal (Extended.ofDecimal d)).rank = 1
        rcases wholeReal_cases (Extended.ofDecimal d) with h | ⟨n, h⟩
        · rw [h]
          rfl
        · rw [h]
          rfl

theorem apply_text_ne_null (a : Affinity) (bytes : List UInt8) : a.apply (.text bytes) ≠ .null := by
  intro hnull
  rcases a.apply_text_cases bytes with h | h
  · rw [hnull] at h
    cases h
  · rw [hnull] at h
    cases h

/-- Converting twice is the same as converting once. -/
theorem apply_apply (a : Affinity) (v : StoredValue) : a.apply (a.apply v) = a.apply v := by
  cases a with
  | anything => rfl
  | text => cases v <;> rfl
  | numeric =>
    cases v with
    | null => rfl
    | integer n => rfl
    | blob bytes => rfl
    | real x => exact apply_numeric_wholeReal x
    | text bytes =>
      have happly : Affinity.numeric.apply (.text bytes) = (numberOf? bytes).getD (.text bytes) := rfl
      cases hnumber : numberOf? bytes with
      | none =>
        rw [happly, hnumber]
        show Affinity.numeric.apply (.text bytes) = .text bytes
        rw [happly, hnumber]
        rfl
      | some number =>
        rw [happly, hnumber]
        show Affinity.numeric.apply number = number
        unfold numberOf? at hnumber
        simp only at hnumber
        split at hnumber
        · cases hnumber
          rfl
        · obtain ⟨d, -, rfl⟩ := Option.map_eq_some_iff.mp hnumber
          exact apply_numeric_wholeReal _

@[simp] theorem apply_null (a : Affinity) : a.apply .null = .null := by
  cases a <;> rfl

end Affinity

/-- Texts come after numbers. -/
theorem StoredValue.order_text_of_rank (c : Collation) {bytes : List UInt8} {v : StoredValue}
    (h : v.rank = 1) : (StoredValue.text bytes).order c v = .gt := by
  cases v with
  | null => cases h
  | integer n => rfl
  | real x => rfl
  | text other => cases h
  | blob other => cases h

/-- A text that a column holds equals a bound text, byte by byte, if the two are the same: a bound
    text that the column would turn into a number is none that it holds. -/
theorem Affinity.accepts_equal_iff {a : Affinity} {s bound : String}
    (h : a.apply (.ofText s) = .ofText s) :
    (StoredValue.ofText s).order .binary (a.apply (.ofText bound)) = .eq ↔ s = bound := by
  rcases a.apply_text_cases (Text.utf8 bound) with htext | hnumber
  · have hbound : a.apply (.ofText bound) = .ofText bound := htext
    rw [hbound]
    show Collation.binary.compare (Text.utf8 s) (Text.utf8 bound) = .eq ↔ s = bound
    rw [Collation.compare_binary, StoredValue.compareBytes_eq_eq_iff, Text.utf8_inj]
  · -- a number is never equal to a text, and the column would not hold the bound text
    have hgt : (StoredValue.ofText s).order .binary (a.apply (.ofText bound)) = .gt :=
      StoredValue.order_text_of_rank .binary hnumber
    rw [hgt]
    constructor
    · intro heq
      cases heq
    · intro heq
      have hrank : (a.apply (.ofText bound)).rank = 1 := hnumber
      rw [← heq, h] at hrank
      cases hrank

/-! ### Rows -/

/-- Whether a row holds its values as the columns of its table prefer them. -/
def TableShape.Holds (shape : TableShape) (row : List StoredValue) : Prop :=
  ∀ name, (shape.affinityOf name).apply (shape.valueIn name row) = shape.valueIn name row

namespace StoredTable

/-- Every row holds its values as the columns prefer them. -/
def IsConverted (t : StoredTable) : Prop :=
  ∀ row ∈ t.rows, t.shape.Holds row

theorem holds_converted (shape : TableShape) (values : List StoredValue) :
    shape.Holds (converted shape.columns values) := by
  intro name
  unfold TableShape.valueIn TableShape.affinityOf
  cases hindex : shape.columnIndex? name with
  | none => exact Affinity.apply_null _
  | some i =>
    -- the place and the affinity of a name are those of the same column
    unfold TableShape.columnIndex? at hindex
    obtain ⟨hlen, htrue, hfalse⟩ := List.findIdx?_eq_some_iff_getElem.mp hindex
    have hfind : (shape.columns.find? fun c => sameName c.name name) = some shape.columns[i] := by
      rw [List.find?_eq_some_iff_getElem]
      exact ⟨htrue, i, hlen, rfl, fun j hj => by simpa using hfalse j hj⟩
    simp only [hfind]
    have hget : (converted shape.columns values)[i]? =
        (values[i]?).map shape.columns[i].affinity.apply := by
      unfold converted
      rw [List.getElem?_map]
      cases hv : values[i]? with
      | some v =>
        have hzip : (shape.columns.zip values)[i]? = some (shape.columns[i], v) :=
          List.getElem?_zip_eq_some.mpr ⟨List.getElem?_eq_getElem hlen, hv⟩
        rw [hzip]
        rfl
      | none =>
        have hzip : (shape.columns.zip values)[i]? = none := by
          rw [List.getElem?_eq_none_iff] at hv ⊢
          rw [List.length_zip]
          omega
        rw [hzip]
        rfl
    rw [List.getD_eq_getElem?_getD, hget]
    cases values[i]? with
    | none => exact Affinity.apply_null _
    | some v => exact Affinity.apply_apply _ v

/-- Rows that converting leaves alone are held as the columns prefer them. -/
theorem isConverted_of_converted {t : StoredTable}
    (h : ∀ row ∈ t.rows, converted t.shape.columns row = row) : t.IsConverted := by
  intro row hrow
  rw [← h row hrow]
  exact holds_converted t.shape row

theorem mem_insertByNumber {row other : List StoredValue} {rows : List (List StoredValue)} :
    other ∈ insertByNumber row rows ↔ other = row ∨ other ∈ rows := by
  induction rows with
  | nil => simp [insertByNumber]
  | cons head rest ih =>
    rw [insertByNumber]
    split
    · simp
    · rw [List.mem_cons, ih, List.mem_cons]
      constructor
      · rintro (h | h | h)
        · exact Or.inr (Or.inl h)
        · exact Or.inl h
        · exact Or.inr (Or.inr h)
      · rintro (h | h | h)
        · exact Or.inr (Or.inl h)
        · exact Or.inl h
        · exact Or.inr (Or.inr h)

/-- Putting a row in adds one converted row and changes nothing else. -/
theorem insertNumbered_eq_ok {t after : StoredTable} {last number : Int}
    {values : List StoredValue} (h : t.insertNumbered last values = .ok (after, number)) :
    after.shape = t.shape ∧ ∃ given, values.length ≤ given.length ∧ ∀ row,
      row ∈ after.rows ↔ row = converted t.shape.columns given ∨ row ∈ t.rows := by
  have hconcat : ∀ new row : List StoredValue, row ∈ t.rows ++ [new] ↔ row = new ∨ row ∈ t.rows := by
    intro new row
    rw [List.mem_append, List.mem_singleton]
    exact Or.comm
  unfold insertNumbered at h
  -- every kind of key either refuses the row or adds it converted
  cases hkey : t.shape.key with
  | unkeyed =>
    simp only [hkey, bind, Except.bind] at h
    split at h
    · cases h
    · cases h
      exact ⟨rfl, values, Nat.le_refl _, hconcat _⟩
  | unique columns =>
    simp only [hkey, bind, Except.bind] at h
    split at h
    · cases h
    · split at h
      · cases h
      · cases h
        exact ⟨rfl, values, Nat.le_refl _, hconcat _⟩
  | numbered =>
    simp only [hkey, bind, Except.bind] at h
    split at h
    · cases h
    · split at h
      · cases h
      · split at h
        · cases h
        · cases h
          refine ⟨rfl, _, ?_, fun row => mem_insertByNumber⟩
          rw [List.length_cons, List.length_drop]
          omega

/-- Putting a row in keeps every row as the columns prefer it. -/
theorem IsConverted.insertNumbered {t after : StoredTable} {last number : Int}
    {values : List StoredValue} (ht : t.IsConverted)
    (h : t.insertNumbered last values = .ok (after, number)) : after.IsConverted := by
  obtain ⟨hshape, given, -, hrows⟩ := insertNumbered_eq_ok h
  intro row hrow
  rw [hshape]
  rcases (hrows row).mp hrow with rfl | hmem
  · exact holds_converted t.shape given
  · exact ht row hmem

end StoredTable

/-! ### Databases -/

/-- Columns for any values hold any values. -/
theorem TableShape.holds_untyped (name : String) (columns : List String) (row : List StoredValue) :
    (TableShape.untyped name columns).Holds row := by
  intro column
  have hanything : (TableShape.untyped name columns).affinityOf column = .anything := by
    unfold TableShape.affinityOf TableShape.untyped
    simp only
    split
    · rename_i c hfind
      obtain ⟨other, -, rfl⟩ := List.mem_map.mp (List.mem_of_find?_eq_some hfind)
      rfl
    · rfl
  rw [hanything]
  rfl

namespace Database

variable {db after : Database}

/-- A row is put into one table; the number of a numbered row is remembered. -/
theorem insertInto_eq_ok {t : StoredTable} {values : List StoredValue} {number : Int}
    (h : db.insertInto t values = .ok (after, number)) :
    ∃ changed, t.insertNumbered (Sequence.last t.shape.name db.remembered) values =
        .ok (changed, number) ∧
      after = match changed.shape.key with
        | .numbered => (db.replace changed).setRemembered (Sequence.remember changed.shape.name
            (max (Sequence.last t.shape.name db.remembered) number) (db.replace changed).remembered)
        | _ => db.replace changed := by
  unfold insertInto at h
  simp only [bind, Except.bind, pure, Except.pure] at h
  split at h
  · cases h
  · rename_i result hresult
    obtain ⟨changed, given⟩ := result
    dsimp only at h
    split at h
    · rename_i hkey
      cases h
      refine ⟨changed, hresult, ?_⟩
      rw [hkey]
    · rename_i hkey
      cases h
      refine ⟨changed, hresult, ?_⟩
      split
      · rename_i hnumbered
        exact absurd hnumbered hkey
      · rfl

/-- A source is either found, which changes nothing, or put in with a value for each column. -/
theorem lookupSource_eq_ok {host dcid : String} {port id : Int}
    (h : db.lookupSource host port dcid = .ok (after, id)) :
    after = db ∨ ∃ t values, db.table? Schema.sourceTable = some t ∧
      values.length = t.shape.columns.length ∧ db.insertInto t values = .ok (after, id) := by
  unfold lookupSource addSource at h
  simp only [bind, Except.bind, pure, Except.pure] at h
  split at h
  · cases h
  · split at h
    · split at h
      · cases h
      · rename_i t ht
        split at h
        · cases h
        · refine .inr ⟨t, _, ht, ?_, h⟩
          unfold rowFor
          rw [List.length_map]
    · split at h
      · cases h
        exact .inl rfl
      · cases h

/-- A row that a statement puts in has a value for each column. -/
theorem insertRow_eq_ok {table : String} {values : List StoredValue}
    (h : Statement.insertRow db table values = .ok after) :
    ∃ t number, db.table? table = some t ∧ values.length = t.shape.columns.length ∧
      db.insertInto t values = .ok (after, number) := by
  unfold Statement.insertRow at h
  split at h
  · cases h
  · split at h
    · cases h
    · rename_i t ht
      split at h
      · cases h
      · rename_i hlength
        cases hresult : db.insertInto t values with
        | error e =>
          rw [hresult] at h
          cases h
        | ok result =>
          obtain ⟨changed, number⟩ := result
          rw [hresult] at h
          cases h
          exact ⟨t, number, ht, Decidable.not_not.mp hlength, hresult⟩

/-- Every table holds its rows as its columns prefer them. -/
def IsConverted (db : Database) : Prop :=
  ∀ t ∈ db.tables, t.IsConverted

namespace IsConverted

theorem of_table? (h : db.IsConverted) {name : String} {t : StoredTable}
    (ht : db.table? name = some t) : t.IsConverted :=
  h t (List.mem_of_find?_eq_some ht)

theorem replace (h : db.IsConverted) {t : StoredTable} (ht : t.IsConverted) :
    (db.replace t).IsConverted := by
  intro other hother
  obtain ⟨old, hold, rfl⟩ := List.mem_map.mp hother
  split
  · exact ht
  · exact h old hold

theorem erase (h : db.IsConverted) (name : String) : (db.erase name).IsConverted := by
  intro t ht
  exact h t (List.mem_filter.mp ht).1

/-- Remembered numbers stand in columns for any values. -/
theorem setRemembered (h : db.IsConverted) (rows : List (List StoredValue)) :
    (db.setRemembered rows).IsConverted :=
  h.replace fun row _ => TableShape.holds_untyped _ _ row

theorem addTable (h : db.IsConverted) (shape : TableShape) : (db.addTable shape).IsConverted := by
  unfold Database.addTable
  split
  · exact h
  · intro t ht
    rcases List.mem_append.mp ht with ht | ht
    · exact h t ht
    · -- the new table has no rows
      rw [List.mem_singleton.mp ht]
      intro row hrow
      cases hrow

theorem addMissing (h : db.IsConverted) (shape : TableShape) :
    (db.addMissing shape).IsConverted := by
  unfold Database.addMissing
  split
  · exact h
  · split
    · exact (h.addTable shape).addTable Sequence.shape
    · exact h.addTable shape

theorem initialised (h : db.IsConverted) : db.initialised.IsConverted := by
  unfold Database.initialised
  generalize Schema.shapes = shapes
  induction shapes generalizing db with
  | nil => exact h
  | cons shape shapes ih => exact ih (h.addMissing shape)

theorem remove (h : db.IsConverted) (t : StoredTable) : (db.remove t).IsConverted := by
  unfold Database.remove
  simp only
  split
  · exact (h.erase _).setRemembered _
  · exact h.erase _

theorem insertInto (h : db.IsConverted) {t : StoredTable} (ht : t.IsConverted)
    {values : List StoredValue} {number : Int}
    (hinsert : db.insertInto t values = .ok (after, number)) : after.IsConverted := by
  obtain ⟨changed, hchanged, rfl⟩ := insertInto_eq_ok hinsert
  have hreplaced := h.replace (ht.insertNumbered hchanged)
  split
  · exact hreplaced.setRemembered _
  · exact hreplaced

theorem lookupSource (h : db.IsConverted) {host dcid : String} {port id : Int}
    (hlookup : db.lookupSource host port dcid = .ok (after, id)) : after.IsConverted := by
  rcases lookupSource_eq_ok hlookup with rfl | ⟨t, values, ht, -, hinsert⟩
  · exact h
  · exact h.insertInto (h.of_table? ht) hinsert

theorem insertRow (h : db.IsConverted) {table : String} {values : List StoredValue}
    (hinsert : Statement.insertRow db table values = .ok after) : after.IsConverted := by
  obtain ⟨t, number, ht, -, hresult⟩ := insertRow_eq_ok hinsert
  exact h.insertInto (h.of_table? ht) hresult

theorem dropTable (h : db.IsConverted) {table : String} {allowed : Bool}
    (hdrop : Statement.dropTable db table allowed = .ok after) : after.IsConverted := by
  unfold Statement.dropTable at hdrop
  split at hdrop
  · cases hdrop
  · split at hdrop
    · split at hdrop
      · cases hdrop
        exact h
      · cases hdrop
    · split at hdrop
      · cases hdrop
      · cases hdrop
        exact h.remove _

theorem createTable (h : db.IsConverted) {table : String} {columns : List String}
    (hcreate : Statement.createTable db table columns = .ok after) : after.IsConverted := by
  unfold Statement.createTable at hcreate
  split at hcreate
  · cases hcreate
  · split at hcreate
    · cases hcreate
    · split at hcreate
      · cases hcreate
      · cases hcreate
        exact h.addTable _

/-- A statement keeps every row of every table as its columns prefer it. -/
theorem run (h : db.IsConverted) {s : Statement} (hrun : s.run db = .ok after) :
    after.IsConverted := by
  unfold Statement.run at hrun
  split at hrun
  · -- a statement with a broken text is not run at all
    cases hrun
  · cases s with
    | insert table values => exact h.insertRow hrun
    | drop table => exact h.dropTable hrun
    | dropIfPresent table => exact h.dropTable hrun
    | create table columns => exact h.createTable hrun

/-- So do statements one after another, also if one of them fails. -/
theorem runAll (h : db.IsConverted) (statements : List Statement) :
    (Statement.runAll statements db).1.IsConverted := by
  induction statements generalizing db with
  | nil => exact h
  | cons s rest ih =>
    unfold Statement.runAll
    split
    · rename_i next hrun
      exact ih (h.run hrun)
    · exact h

end IsConverted

end Database

end NodeReport

import NodeReport.Proofs.Store.Answer
import NodeReport.Proofs.Store.DayValue
import NodeReport.Proofs.Store.Tables

/-! # The registry of sources

  A source is looked up by what it is registered under, and is put in if it is new. The table of
  sources then holds one row for each of them, numbered from one in the order in which they came.

  * `Registers.lookupSource`: one lookup keeps the numbers and adds at most one;
  * `Registers.value_sources`: the sources that are listed.
-/

namespace NodeReport

/-- What a source is registered under. -/
structure SourceKey where
  /-- The machine. -/
  host : String
  /-- The port. -/
  port : Int
  /-- The code. -/
  dcid : String
deriving DecidableEq

namespace Registry

/-- The row of a source. -/
def row (id : Int) (key : SourceKey) : List StoredValue :=
  [.integer id, .ofText key.host, .integer key.port, .ofText key.dcid, .null]

/-- The rows of sources, numbered from one. -/
def rows (keys : List SourceKey) : List (List StoredValue) :=
  keys.mapIdx fun i key => row (i + 1) key

/-- The table of sources. -/
def table (keys : List SourceKey) : StoredTable where
  shape := Schema.source
  rows := rows keys

/-- The id of a registered source. -/
def idOf (keys : List SourceKey) (key : SourceKey) : Int :=
  keys.idxOf key + 1

/-- The sources with their ids. -/
def sources (keys : List SourceKey) : List Source :=
  keys.mapIdx fun i key => ⟨i + 1, key.host, key.port, key.dcid⟩

/-- Registers a source, unless it is registered already. -/
def register (keys : List SourceKey) (key : SourceKey) : List SourceKey :=
  if key ∈ keys then keys else keys ++ [key]

variable {keys : List SourceKey} {key : SourceKey}

/-! ### Keys -/

theorem register_of_mem (h : key ∈ keys) : register keys key = keys := if_pos h

theorem register_of_not_mem (h : key ∉ keys) : register keys key = keys ++ [key] := if_neg h

theorem nodup_register (h : keys.Nodup) (key : SourceKey) : (register keys key).Nodup := by
  by_cases hmem : key ∈ keys
  · rw [register_of_mem hmem]
    exact h
  · rw [register_of_not_mem hmem, List.nodup_append]
    refine ⟨h, by simp, ?_⟩
    intro other hother last hlast heq
    rw [List.mem_singleton.mp hlast] at heq
    exact hmem (heq ▸ hother)

theorem mem_register (keys : List SourceKey) (key : SourceKey) : key ∈ register keys key := by
  by_cases hmem : key ∈ keys
  · rw [register_of_mem hmem]
    exact hmem
  · rw [register_of_not_mem hmem]
    exact List.mem_append_right _ (List.mem_singleton.mpr rfl)

/-! ### Rows -/

theorem getElem?_rows (keys : List SourceKey) (i : Nat) :
    (rows keys)[i]? = keys[i]?.map (row (i + 1)) := by
  unfold rows
  rw [List.getElem?_mapIdx]

theorem mem_rows {stored : List StoredValue} :
    stored ∈ rows keys ↔ ∃ (i : Nat) (key : SourceKey), keys[i]? = some key ∧
      stored = row (i + 1) key := by
  rw [List.mem_iff_getElem?]
  constructor
  · intro hmem
    obtain ⟨i, hi⟩ := hmem
    rw [getElem?_rows, Option.map_eq_some_iff] at hi
    obtain ⟨key, hkey, hrow⟩ := hi
    exact ⟨i, key, hkey, hrow.symm⟩
  · intro hrow
    obtain ⟨i, key, hkey, rfl⟩ := hrow
    exact ⟨i, by rw [getElem?_rows, hkey]; rfl⟩

theorem rows_concat (keys : List SourceKey) (key : SourceKey) :
    rows (keys ++ [key]) = rows keys ++ [row (keys.length + 1) key] := by
  unfold rows
  rw [List.mapIdx_concat]

theorem collationOf_source (column : String) : Schema.source.collationOf column = .binary :=
  TableShape.collationOf_eq_binary (by decide) column

/-- A condition on a text compares the stored text with the bound one. -/
theorem satisfies_text {column a b : String} {stored : List StoredValue}
    (hvalue : Schema.source.valueIn column stored = .ofText a)
    (haffinity : Schema.source.affinityOf column = .text) :
    Selection.satisfies Schema.source stored ⟨column, .equal, .ofText b⟩ = true ↔ a = b := by
  have hbound : Affinity.text.apply (.ofText b) = .ofText b := rfl
  have hnull : ∀ s : String, (StoredValue.ofText s != .null) = true := by
    intro s
    simp [StoredValue.ofText]
  unfold Selection.satisfies
  simp only [hvalue, haffinity, hbound, hnull, Bool.true_and, collationOf_source]
  show (Collation.binary.compare (Text.utf8 a) (Text.utf8 b) == .eq) = true ↔ a = b
  rw [beq_iff_eq, Collation.compare_binary, StoredValue.compareBytes_eq_eq_iff, Text.utf8_inj]

/-- A condition on a number compares the stored number with the bound one. -/
theorem satisfies_integer {column : String} {m n : Int} {stored : List StoredValue}
    (hvalue : Schema.source.valueIn column stored = .integer m)
    (haffinity : Schema.source.affinityOf column = .numeric) :
    Selection.satisfies Schema.source stored ⟨column, .equal, .integer n⟩ = true ↔ m = n := by
  have hbound : Affinity.numeric.apply (.integer n) = .integer n := rfl
  have hnull : ∀ k : Int, (StoredValue.integer k != .null) = true := by
    intro k
    simp
  unfold Selection.satisfies
  simp only [hvalue, haffinity, hbound, hnull, Bool.true_and]
  show (compare m n == .eq) = true ↔ m = n
  rw [beq_iff_eq, Int.compare_eq_eq]

/-- The row of a source satisfies the conditions of a lookup if the source is the one looked up. -/
theorem satisfies_sourceIdOf {id : Int} {other : SourceKey} :
    (∀ c ∈ (Database.sourceIdOf key.host key.port key.dcid).conditions,
      Selection.satisfies Schema.source (row id other) c = true) ↔ other = key := by
  have hconditions : (Database.sourceIdOf key.host key.port key.dcid).conditions =
      [⟨"host", .equal, .ofText key.host⟩, ⟨"port", .equal, .integer key.port⟩,
        ⟨"dcid", .equal, .ofText key.dcid⟩] := rfl
  -- no value of a row is null, so each condition is an equation
  rw [hconditions, List.forall_mem_cons, List.forall_mem_cons, List.forall_mem_singleton,
    satisfies_text (a := other.host) rfl rfl, satisfies_integer (m := other.port) rfl rfl,
    satisfies_text (a := other.dcid) rfl rfl]
  constructor
  · rintro ⟨hhost, hport, hdcid⟩
    cases other
    cases key
    cases hhost
    cases hport
    cases hdcid
    rfl
  · rintro rfl
    exact ⟨rfl, rfl, rfl⟩

/-! ### Numbers -/

theorem greatestNumber_table (keys : List SourceKey) :
    (table keys).greatestNumber = keys.length := by
  rcases List.eq_nil_or_concat keys with rfl | ⟨first, last, rfl⟩
  · rfl
  · unfold StoredTable.greatestNumber table
    rw [List.concat_eq_append, rows_concat, List.getLast?_concat, List.length_append]
    rfl

/-- A row that comes before no other one is put last. -/
theorem insertByNumber_eq_concat {new : List StoredValue} {others : List (List StoredValue)}
    (h : ∀ other ∈ others, StoredTable.numberOf other ≤ StoredTable.numberOf new) :
    StoredTable.insertByNumber new others = others ++ [new] := by
  induction others with
  | nil => rfl
  | cons first rest ih =>
    have hfirst := h first List.mem_cons_self
    rw [StoredTable.insertByNumber, if_neg (Int.not_lt.mpr hfirst),
      ih fun other hother => h other (List.mem_cons_of_mem _ hother)]
    rfl

/-- A new source gets the next number and the last row. -/
theorem insertNumbered_table (hlimit : (keys.length : Int) < maxInt64) (key : SourceKey) :
    (table keys).insertNumbered keys.length (Database.rowFor Schema.source
        [("host", .ofText key.host), ("port", .integer key.port), ("dcid", .ofText key.dcid)]) =
      .ok (table (keys ++ [key]), keys.length + 1) := by
  have hvalues : Database.rowFor Schema.source
      [("host", .ofText key.host), ("port", .integer key.port), ("dcid", .ofText key.dcid)] =
        [.null, .ofText key.host, .integer key.port, .ofText key.dcid, .null] := rfl
  have hnumber : (table keys).rowNumber keys.length .null = .ok (keys.length + 1) := by
    show (if (keys.length : Int) = maxInt64 ∨ (table keys).greatestNumber = maxInt64 then _
      else _) = _
    rw [greatestNumber_table, if_neg (by omega), Int.max_self]
  have hkey : (table keys).shape.key = .numbered := rfl
  have hrow : StoredTable.converted (table keys).shape.columns (.integer (keys.length + 1) ::
      [.ofText key.host, .integer key.port, .ofText key.dcid, .null]) =
        row (keys.length + 1) key := rfl
  have hmissing : StoredTable.missingColumn? (table keys).shape.columns
      (row (keys.length + 1) key) = none := rfl
  -- every other row has a smaller number
  have hsmaller : ∀ other ∈ (table keys).rows, ∃ (i : Nat) (k : SourceKey), i < keys.length ∧
      other = row (i + 1) k := by
    intro other hother
    obtain ⟨i, k, hi, rfl⟩ := mem_rows.mp hother
    obtain ⟨hlt, -⟩ := List.getElem?_eq_some_iff.mp hi
    exact ⟨i, k, hlt, rfl⟩
  have hunique : ((table keys).rows.any fun other =>
      StoredTable.numberOf other == (keys.length : Int) + 1) = false := by
    rw [List.any_eq_false]
    intro other hother
    obtain ⟨i, k, hlt, rfl⟩ := hsmaller other hother
    show ¬ ((i : Int) + 1 == (keys.length : Int) + 1) = true
    rw [beq_iff_eq]
    omega
  have hlast : StoredTable.insertByNumber (row (keys.length + 1) key) (table keys).rows =
      (table keys).rows ++ [row (keys.length + 1) key] := by
    apply insertByNumber_eq_concat
    intro other hother
    obtain ⟨i, k, hlt, rfl⟩ := hsmaller other hother
    show (i : Int) + 1 ≤ (keys.length : Int) + 1
    omega
  unfold StoredTable.insertNumbered
  rw [hvalues]
  simp only [hkey, List.headD_cons, hnumber, bind, Except.bind, List.drop_succ_cons, List.drop_zero,
    hrow, hmissing, hunique, hlast]
  rw [if_neg Bool.false_ne_true]
  unfold table
  rw [rows_concat]

end Registry

/-! ### Remembered numbers -/

namespace Sequence

/-- The greatest number is the last that was given, unless a greater one was. -/
theorem last_remember {name : String} {n : Int} {rows : List (List StoredValue)}
    (h : last name rows ≤ n) : last name (remember name n rows) = n := by
  have hself : isAbout name [.ofText name, .integer n] = true := beq_self_eq_true _
  induction rows with
  | nil =>
    unfold remember last
    rw [List.find?_cons_of_pos hself]
    rfl
  | cons first rest ih =>
    unfold remember
    by_cases hfirst : isAbout name first = true
    · rw [if_pos hfirst]
      unfold last at h ⊢
      rw [List.find?_cons_of_pos hfirst] at h
      by_cases hlt : number first < n
      · rw [if_pos hlt, List.find?_cons_of_pos hself]
        rfl
      · rw [if_neg hlt, List.find?_cons_of_pos hfirst]
        have hle : number first ≤ n := h
        show number first = n
        omega
    · rw [if_neg hfirst]
      unfold last at h ih ⊢
      rw [List.find?_cons_of_neg hfirst] at h ⊢
      exact ih h

end Sequence

/-! ### Databases with a registry -/

/-- Whether a database has all tables of a store and has registered these sources. -/
structure Database.Registers (db : Database) (keys : List SourceKey) : Prop where
  /-- Every table is there. -/
  complete : ∀ shape ∈ Schema.shapes, (db.table? shape.name).isSome = true
  /-- The table of sources. -/
  sources : db.table? Schema.sourceTable = some (Registry.table keys)
  /-- There is a table of remembered numbers. -/
  remembers : (db.table? Sequence.shape.name).isSome = true
  /-- The number of the last source is remembered. -/
  last : Sequence.last Schema.sourceTable db.remembered = keys.length

namespace Database.Registers

open Registry

variable {db : Database} {keys : List SourceKey} {key : SourceKey}

/-- A store that is set up in an empty database has no sources. -/
theorem initialised_empty : Database.Registers ({} : Database).initialised [] := by
  rw [Database.initialised_empty]
  exact {
    complete := by decide +kernel
    sources := by rfl
    remembers := by decide
    last := by rfl }

theorem initialised (h : db.Registers keys) : db.initialised = db :=
  initialised_eq_self h.complete

/-- What the lookup of a source finds: its row, if it is registered. -/
theorem run_sourceIdOf (h : db.Registers keys) (hnodup : keys.Nodup) (key : SourceKey) :
    ∃ found, (sourceIdOf key.host key.port key.dcid).run db = .ok found ∧
      (key ∉ keys ∧ found.rows = [] ∨
        key ∈ keys ∧ ∃ rest, found.rows = [.integer (idOf keys key)] :: rest) := by
  have hcolumns : ∀ name ∈ ["id", "host", "port", "dcid"], Schema.source.HasColumn name := by decide
  refine ⟨_, Selection.run_eq_ok (s := sourceIdOf key.host key.port key.dcid) h.sources hcolumns,
    ?_⟩
  -- the rows that are picked are those of the source
  have hpicked : ∀ stored, stored ∈ (sourceIdOf key.host key.port key.dcid).picked (table keys) ↔
      ∃ i : Nat, keys[i]? = some key ∧ stored = row (i + 1) key := by
    intro stored
    rw [Selection.mem_picked]
    constructor
    · intro hrow
      obtain ⟨hmem, hconditions⟩ := hrow
      obtain ⟨i, other, hi, rfl⟩ := mem_rows.mp hmem
      rw [← satisfies_sourceIdOf.mp hconditions]
      exact ⟨i, hi, rfl⟩
    · intro hrow
      obtain ⟨i, hi, rfl⟩ := hrow
      exact ⟨mem_rows.mpr ⟨i, key, hi, rfl⟩, satisfies_sourceIdOf.mpr rfl⟩
  show key ∉ keys ∧ List.map _ ((sourceIdOf key.host key.port key.dcid).picked (table keys)) = [] ∨
    _
  cases heq : (sourceIdOf key.host key.port key.dcid).picked (table keys) with
  | nil =>
    refine .inl ⟨?_, rfl⟩
    intro hmem
    obtain ⟨i, hi⟩ := List.mem_iff_getElem?.mp hmem
    have hrow := (hpicked _).mpr ⟨i, hi, rfl⟩
    rw [heq] at hrow
    cases hrow
  | cons first rest =>
    obtain ⟨i, hi, hrow⟩ := (hpicked first).mp (by rw [heq]; exact List.mem_cons_self)
    have hmem : key ∈ keys := List.mem_iff_getElem?.mpr ⟨i, hi⟩
    -- no other source has the same key, so the row is the one at its first place
    have hindex : keys.idxOf key = i := by
      obtain ⟨hlt, hget⟩ := List.getElem?_eq_some_iff.mp hi
      rw [← hget]
      exact hnodup.idxOf_getElem i hlt
    refine .inr ⟨hmem, rest.map fun stored => ["id"].map fun c => Schema.source.valueIn c stored,
      ?_⟩
    unfold idOf
    rw [hindex, hrow]
    rfl

/-- The table of sources is not that of remembered numbers. -/
theorem sameName_table (keys : List SourceKey) :
    sameName (table keys).shape.name Sequence.shape.name = false :=
  show sameName Schema.sourceTable Sequence.shape.name = false by decide

/-- With another source in the table, and the number remembered, one more source is registered. -/
theorem concat (h : db.Registers keys) (key : SourceKey) :
    ((db.replace (table (keys ++ [key]))).setRemembered (Sequence.remember Schema.sourceTable
      (keys.length + 1) db.remembered)).Registers (keys ++ [key]) := by
  have hown : ((db.replace (table (keys ++ [key]))).table? Sequence.shape.name).isSome = true := by
    rw [table?_replace_of_ne (sameName_table (keys ++ [key]))]
    exact h.remembers
  have hsource : Schema.source ∈ Schema.shapes := List.mem_cons_self
  have hbound : Sequence.last Schema.sourceTable db.remembered ≤ keys.length + 1 := by
    rw [h.last]
    omega
  refine ⟨?_, ?_, ?_, ?_⟩
  · -- a replaced table is still there
    intro shape hshape
    rw [table?_setRemembered (sameName_sequence hshape), table?_replace]
    split
    · rw [Option.isSome_map]
      exact h.complete shape hshape
    · exact h.complete shape hshape
  · have hkept := table?_replace_self (h.complete _ hsource)
      (sameName_self (table (keys ++ [key])).shape.name)
    exact (table?_setRemembered (sameName_sequence hsource)).trans hkept
  · unfold setRemembered
    rw [table?_replace, if_pos (sameName_self Sequence.shape.name), Option.isSome_map]
    exact hown
  · rw [remembered_setRemembered hown, Sequence.last_remember hbound, List.length_append,
      List.length_singleton]
    omega

/-- A new source is put in with the next number. -/
theorem addSource (h : db.Registers keys) (hlimit : (keys.length : Int) < maxInt64)
    (key : SourceKey) :
    ∃ after, db.addSource key.host key.port key.dcid = .ok (after, keys.length + 1) ∧
      after.Registers (keys ++ [key]) := by
  have hcolumns : ∀ name ∈ ["host", "port", "dcid"],
      (Schema.source.columnIndex? name).isNone = false := by decide
  have hfind : ([("host", StoredValue.ofText key.host), ("port", .integer key.port),
      ("dcid", .ofText key.dcid)].find? fun given =>
        ((table keys).shape.columnIndex? given.1).isNone) = none := by
    rw [List.find?_eq_none]
    intro given hgiven
    have hname : given.1 ∈ ["host", "port", "dcid"] := List.mem_map_of_mem (f := Prod.fst) hgiven
    exact Bool.eq_false_iff.mp (hcolumns given.1 hname)
  have hadd : db.addSource key.host key.port key.dcid =
      db.insertInto (table keys) (Database.rowFor Schema.source
        [("host", .ofText key.host), ("port", .integer key.port), ("dcid", .ofText key.dcid)]) := by
    unfold Database.addSource
    simp only [h.sources, hfind]
    rfl
  have hlast : Sequence.last (table keys).shape.name db.remembered = keys.length := h.last
  have hnumbered : (table keys).insertNumbered
      (Sequence.last (table keys).shape.name db.remembered) (Database.rowFor Schema.source
        [("host", .ofText key.host), ("port", .integer key.port), ("dcid", .ofText key.dcid)]) =
      .ok (table (keys ++ [key]), keys.length + 1) := by
    rw [hlast]
    exact insertNumbered_table hlimit key
  have hinsert := insertInto_numbered hnumbered rfl (sameName_table (keys ++ [key]))
  rw [hlast, Int.max_eq_right (by omega)] at hinsert
  exact ⟨_, hadd.trans hinsert, h.concat key⟩

/-- Looking a source up gives its id, and registers it if it is new. -/
theorem lookupSource (h : db.Registers keys) (hnodup : keys.Nodup)
    (hlimit : ((register keys key).length : Int) ≤ maxInt64) :
    ∃ after, db.lookupSource key.host key.port key.dcid =
        .ok (after, idOf (register keys key) key) ∧ after.Registers (register keys key) := by
  obtain ⟨found, hrun, hrows⟩ := h.run_sourceIdOf hnodup key
  unfold Database.lookupSource
  simp only [hrun, bind, Except.bind]
  -- a new source gets the number after the last, and a known one keeps its own
  rcases hrows with ⟨hnew, hrows⟩ | ⟨hmem, rest, hrows⟩
  · rw [register_of_not_mem hnew] at hlimit ⊢
    rw [List.length_append, List.length_singleton] at hlimit
    obtain ⟨after, hadd, hafter⟩ := h.addSource (by omega) key
    have hid : idOf (keys ++ [key]) key = keys.length + 1 := by
      unfold idOf
      rw [List.idxOf_append, if_neg hnew, List.idxOf_cons_self]
      simp
    rw [hrows, hid]
    exact ⟨after, hadd, hafter⟩
  · rw [register_of_mem hmem, hrows]
    exact ⟨db, rfl, h⟩

/-- Rows stand in order of their numbers. -/
theorem pairwise_rows (keys : List SourceKey) :
    (rows keys).Pairwise fun a b => Schema.source.orderBy ["id"] a b = .lt := by
  rw [List.pairwise_iff_getElem]
  intro i j hi hj hlt
  obtain ⟨key, -, hkey⟩ := Option.map_eq_some_iff.mp
    ((getElem?_rows keys i).symm.trans (List.getElem?_eq_getElem hi))
  obtain ⟨other, -, hother⟩ := Option.map_eq_some_iff.mp
    ((getElem?_rows keys j).symm.trans (List.getElem?_eq_getElem hj))
  rw [← hkey, ← hother]
  show (compare ((i : Int) + 1) (j + 1)).then .eq = .lt
  rw [Int.compare_eq_lt.mpr (by omega)]
  rfl

/-- A row is read as the source whose it is. -/
theorem ofRow?_row (id : Int) (key : SourceKey) :
    Source.ofRow? (Selected.toRow ["id", "host", "port", "dcid"]
      (["id", "host", "port", "dcid"].map fun c => Schema.source.valueIn c (row id key))) =
        some ⟨id, key.host, key.port, key.dcid⟩ := by
  have hrow : Selected.toRow ["id", "host", "port", "dcid"]
      (["id", "host", "port", "dcid"].map fun c => Schema.source.valueIn c (row id key)) =
        Keyed.ofList [("id", .integer id), ("host", .text key.host), ("port", .integer key.port),
          ("dcid", .text key.dcid)] := by
    show Keyed.ofList [("id", .integer id), ("host", (StoredValue.ofText key.host).toCell),
      ("port", .integer key.port), ("dcid", (StoredValue.ofText key.dcid).toCell)] = _
    rw [StoredValue.toCell_ofText, StoredValue.toCell_ofText]
  have hget : ∀ name cell, (name, cell) ∈ [("id", Cell.integer id), ("host", .text key.host),
      ("port", .integer key.port), ("dcid", .text key.dcid)] →
        (Selected.toRow ["id", "host", "port", "dcid"] (["id", "host", "port", "dcid"].map fun c =>
          Schema.source.valueIn c (row id key))).get? name = some cell := by
    intro name cell hmem
    rw [hrow]
    have hnames : ([("id", Cell.integer id), ("host", .text key.host),
      ("port", .integer key.port), ("dcid", .text key.dcid)].map Prod.fst).Nodup := by
      show ["id", "host", "port", "dcid"].Nodup
      decide
    exact (Keyed.get?_ofList_eq_some_iff hnames).mpr hmem
  unfold Source.ofRow? Row.integerAt? Row.textAt
  rw [hget "id" (.integer id) (by simp), hget "host" (.text key.host) (by simp),
    hget "port" (.integer key.port) (by simp), hget "dcid" (.text key.dcid) (by simp)]
  rfl

/-- The sources that are listed are those that are registered, in order of their ids. -/
theorem value_sources (h : db.Registers keys) :
    db.reportStore.sources.value = .ok (Registry.sources keys) := by
  rw [Database.value_sources h.sources rfl (pairwise_rows keys)]
  congr 1
  unfold table rows Registry.sources
  rw [List.mapIdx_eq_zipIdx_map, List.mapIdx_eq_zipIdx_map, List.filterMap_map,
    ← List.filterMap_eq_map]
  congr 1
  funext numbered
  exact ofRow?_row (numbered.2 + 1) numbered.1

end Database.Registers

end NodeReport

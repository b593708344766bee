import Mathlib.Data.List.Induction
import Mathlib.Data.List.Perm.Basic
import NodeReport.Proofs.Keyed
import NodeReport.Proofs.Store.Value
import NodeReport.Store.Select

/-! # What a selection gives

  A selection picks the rows that satisfy its conditions, in some order, and its distinct rows are
  the same as a set. A column is found in the cells of a row under its own name, provided that no
  two columns have the same name.
-/

namespace NodeReport

/-! ### Names -/

@[simp] theorem sameName_self (a : String) : sameName a a = true := by
  simp [sameName]

namespace TableShape

/-- No two columns have the same name. -/
def HasDistinctNames (shape : TableShape) : Prop :=
  shape.columns.Pairwise fun a b => sameName a.name b.name = false

/-- There is a column of exactly this name. A name in another case would be the same to the store,
    but not to those who read its rows. -/
def HasColumn (shape : TableShape) (name : String) : Prop :=
  ∃ c ∈ shape.columns, c.name = name

instance (shape : TableShape) : Decidable shape.HasDistinctNames :=
  inferInstanceAs (Decidable (List.Pairwise _ _))

instance (shape : TableShape) (name : String) : Decidable (shape.HasColumn name) :=
  inferInstanceAs (Decidable (∃ c ∈ shape.columns, c.name = name))

variable {shape : TableShape}

/-- The place of a column is the only one at which its name stands. -/
theorem columnIndex?_eq_some (hdistinct : shape.HasDistinctNames) {i : Nat} {c : Column}
    (hi : shape.columns[i]? = some c) : shape.columnIndex? c.name = some i := by
  unfold columnIndex?
  rw [List.findIdx?_eq_some_iff_getElem]
  obtain ⟨hlen, hget⟩ := List.getElem?_eq_some_iff.mp hi
  refine ⟨hlen, by rw [hget]; simp, ?_⟩
  intro j hji
  have hpair := List.pairwise_iff_getElem.mp hdistinct j i (by omega) hlen hji
  rw [hget] at hpair
  simpa using hpair

theorem valueIn_eq_getD (hdistinct : shape.HasDistinctNames) {i : Nat} {c : Column}
    (hi : shape.columns[i]? = some c) (row : List StoredValue) :
    shape.valueIn c.name row = row.getD i .null := by
  unfold valueIn
  rw [columnIndex?_eq_some hdistinct hi]

/-- Texts are compared byte by byte under every name unless some column asks for more. -/
theorem collationOf_eq_binary (h : ∀ c ∈ shape.columns, c.collation = .binary) (name : String) :
    shape.collationOf name = .binary := by
  unfold collationOf
  split
  · rename_i c hfind
    exact h c (List.mem_of_find?_eq_some hfind)
  · rfl

theorem HasColumn.exists_getElem? {name : String} (h : shape.HasColumn name) :
    ∃ (i : Nat) (c : Column), shape.columns[i]? = some c ∧ c.name = name := by
  obtain ⟨c, hmem, hname⟩ := h
  obtain ⟨i, hi⟩ := List.mem_iff_getElem?.mp hmem
  exact ⟨i, c, hi, hname⟩

theorem HasColumn.isSome_columnIndex? {name : String} (h : shape.HasColumn name) :
    (shape.columnIndex? name).isSome = true := by
  obtain ⟨c, hmem, rfl⟩ := h
  unfold columnIndex?
  rw [List.findIdx?_isSome, List.any_eq_true]
  exact ⟨c, hmem, by simp⟩

/-- A column of exactly this name is the one that the store finds. -/
theorem HasColumn.find? (hdistinct : shape.HasDistinctNames) {name : String}
    (h : shape.HasColumn name) :
    ∃ c, (shape.columns.find? fun c => sameName c.name name) = some c ∧ c.name = name := by
  obtain ⟨i, c, hi, hname⟩ := h.exists_getElem?
  have hindex := columnIndex?_eq_some hdistinct hi
  rw [hname] at hindex
  unfold columnIndex? at hindex
  refine ⟨c, ?_, hname⟩
  obtain ⟨hlen, htrue, hfalse⟩ := List.findIdx?_eq_some_iff_getElem.mp hindex
  rw [List.find?_eq_some_iff_getElem]
  obtain ⟨_, hget⟩ := List.getElem?_eq_some_iff.mp hi
  exact ⟨by rw [hname]; simp, i, hlen, hget, fun j hj => by simpa using hfalse j hj⟩

end TableShape

/-! ### Rows with names -/

namespace Selected

variable {shape : TableShape}

/-- The cells of a row stand under the names of their columns. -/
theorem mem_toRow_entries {names : List String} {values : List StoredValue} {name : String}
    {cell : Cell} (h : (toRow names values).get? name = some cell) :
    ∃ (i : Nat) (v : StoredValue),
      names[i]? = some name ∧ values[i]? = some v ∧ v.toCell = cell := by
  unfold toRow at h
  obtain ⟨⟨n, v⟩, hmem, heq⟩ := List.mem_map.mp (Keyed.mem_of_get?_ofList h)
  cases heq
  obtain ⟨i, hi⟩ := List.mem_iff_getElem?.mp hmem
  obtain ⟨hn, hv⟩ := List.getElem?_zip_eq_some.mp hi
  exact ⟨i, v, hn, hv, rfl⟩

theorem get?_toRow_isSome {names : List String} {values : List StoredValue} {name : String}
    {i : Nat} {v : StoredValue} (hname : names[i]? = some name) (hv : values[i]? = some v) :
    ∃ cell, (toRow names values).get? name = some cell := by
  unfold toRow
  apply Keyed.exists_get?_ofList
  have hzip : (names.zip values)[i]? = some (name, v) := List.getElem?_zip_eq_some.mpr ⟨hname, hv⟩
  exact ⟨(name, v.toCell), List.mem_map.mpr ⟨(name, v), List.mem_of_getElem? hzip, rfl⟩, rfl⟩

/-- A cell of a row of all columns is the stored value of its column. -/
theorem eq_of_get?_toRow (hdistinct : shape.HasDistinctNames) {row : List StoredValue}
    {name : String} {cell : Cell}
    (h : (toRow (shape.columns.map Column.name) row).get? name = some cell) :
    cell = (shape.valueIn name row).toCell := by
  obtain ⟨i, v, hname, hv, rfl⟩ := mem_toRow_entries h
  rw [List.getElem?_map] at hname
  obtain ⟨c, hc, rfl⟩ := Option.map_eq_some_iff.mp hname
  rw [TableShape.valueIn_eq_getD hdistinct hc, List.getD_eq_getElem?_getD, hv]
  rfl

/-- What a row of all columns shows in a column is the stored value; too short a row shows none. -/
theorem getD_get?_toRow (hdistinct : shape.HasDistinctNames) {name : String}
    (hcolumn : shape.HasColumn name) (row : List StoredValue) :
    ((toRow (shape.columns.map Column.name) row).get? name).getD .null =
      (shape.valueIn name row).toCell := by
  obtain ⟨i, c, hi, rfl⟩ := hcolumn.exists_getElem?
  have hname : (shape.columns.map Column.name)[i]? = some c.name := by
    rw [List.getElem?_map, hi]
    rfl
  -- a row that ends before the column has no cell in it, and no value either
  cases hv : row[i]? with
  | some v =>
    obtain ⟨cell, hcell⟩ := get?_toRow_isSome hname hv
    rw [hcell]
    exact eq_of_get?_toRow hdistinct hcell
  | none =>
    have hnone : (toRow (shape.columns.map Column.name) row).get? c.name = none := by
      cases hget : (toRow (shape.columns.map Column.name) row).get? c.name with
      | none => rfl
      | some cell =>
        -- a cell under this name would stand at the place of the column
        obtain ⟨j, v, hj, hvj, -⟩ := mem_toRow_entries hget
        rw [List.getElem?_map] at hj
        obtain ⟨c', hc', hsame⟩ := Option.map_eq_some_iff.mp hj
        have h1 := TableShape.columnIndex?_eq_some hdistinct hi
        have h2 := TableShape.columnIndex?_eq_some hdistinct hc'
        rw [hsame, h1] at h2
        cases h2
        rw [hv] at hvj
        cases hvj
    rw [hnone, TableShape.valueIn_eq_getD hdistinct hi, List.getD_eq_getElem?_getD, hv]
    rfl

end Selected

namespace StoredValue

/-! ### Equal values -/

theorem order_self (c : Collation) (v : StoredValue) : v.order c v = .eq := by
  cases v with
  | null => rfl
  | integer n => exact Int.compare_eq_eq.mpr rfl
  | real x =>
    cases x with
    | nan => rfl
    | infinite negative => cases negative <;> rfl
    | finite negative m e h => exact Int.compare_eq_eq.mpr rfl
  | text bytes => exact c.compare_self bytes
  | blob bytes => exact compareBytes_self bytes

end StoredValue

theorem TableShape.orderBy_self (shape : TableShape) (columns : List String)
    (row : List StoredValue) : shape.orderBy columns row row = .eq := by
  induction columns with
  | nil => rfl
  | cons name columns ih =>
    rw [orderBy, StoredValue.order_self, ih]
    rfl

/-! ### Plans -/

section Plans

variable {α : Type}

/-- A plan changes nothing but the order. -/
theorem arrange_perm (places : List Nat) (xs : List α) : (arrange places xs).Perm xs := by
  induction places generalizing xs with
  | nil => exact List.Perm.refl xs
  | cons i places ih =>
    rw [arrange]
    cases hi : xs[i]? with
    | none => exact ih xs
    | some x =>
      obtain ⟨hlt, rfl⟩ := List.getElem?_eq_some_iff.mp hi
      exact ((ih (xs.eraseIdx i)).cons xs[i]).trans (List.getElem_cons_eraseIdx_perm hlt)

/-- There is a plan for every order. -/
theorem exists_arrange_eq {xs ys : List α} (h : ys.Perm xs) : ∃ places, arrange places xs = ys := by
  induction ys generalizing xs with
  | nil => exact ⟨[], h.symm.eq_nil⟩
  | cons y ys ih =>
    obtain ⟨i, hlt, rfl⟩ := List.mem_iff_getElem.mp (h.mem_iff.mp List.mem_cons_self)
    -- the first one is taken from its place, and the plan goes on with those that are left
    have hrest : ys.Perm (xs.eraseIdx i) :=
      (h.trans (List.getElem_cons_eraseIdx_perm hlt).symm).cons_inv
    obtain ⟨places, hplaces⟩ := ih hrest
    refine ⟨i :: places, ?_⟩
    rw [arrange, List.getElem?_eq_getElem hlt, hplaces]

end Plans

namespace Selection

/-! ### Picked rows -/

theorem met_perm (s : Selection) (t : StoredTable) : (s.met t).Perm (s.satisfying t) := by
  unfold met
  split
  · exact arrange_perm _ _
  · split
    · split
      · exact List.mergeSort_perm _ _
      · exact List.Perm.refl _
    · exact List.Perm.refl _

/-- A selection picks the rows that satisfy its conditions, in some order. -/
theorem picked_perm (s : Selection) (t : StoredTable) : (s.picked t).Perm (s.satisfying t) :=
  (List.mergeSort_perm _ _).trans (s.met_perm t)

theorem mem_picked {s : Selection} {t : StoredTable} {row : List StoredValue} :
    row ∈ s.picked t ↔ row ∈ t.rows ∧ ∀ c ∈ s.conditions, satisfies t.shape row c = true := by
  rw [(s.picked_perm t).mem_iff, satisfying, List.mem_filter, List.all_eq_true]

/-! ### Distinct rows -/

variable {shape : TableShape} {names : List String} {rows : List (List StoredValue)}
  {row : List StoredValue}

/-- Keeps a row unless an equal one is kept already. -/
theorem firstOfEach_append (shape : TableShape) (names : List String)
    (rows : List (List StoredValue)) (row : List StoredValue) :
    firstOfEach shape names (rows ++ [row]) =
      if (firstOfEach shape names rows).any fun other => shape.orderBy names row other == .eq then
        firstOfEach shape names rows
      else firstOfEach shape names rows ++ [row] := by
  unfold firstOfEach
  rw [List.foldl_append]
  rfl

/-- The rows that are kept are some of the rows. -/
theorem mem_of_mem_firstOfEach (h : row ∈ firstOfEach shape names rows) : row ∈ rows := by
  induction rows using List.reverseRecOn with
  | nil => simp [firstOfEach] at h
  | append_singleton rows last ih =>
    rw [firstOfEach_append] at h
    split at h
    · exact List.mem_append_left _ (ih h)
    · rcases List.mem_append.mp h with h | h
      · exact List.mem_append_left _ (ih h)
      · exact List.mem_append_right _ h

/-- Every row is equal to one that is kept. -/
theorem exists_mem_firstOfEach (h : row ∈ rows) :
    ∃ kept ∈ firstOfEach shape names rows, shape.orderBy names row kept = .eq := by
  induction rows using List.reverseRecOn with
  | nil => simp at h
  | append_singleton rows last ih =>
    rw [firstOfEach_append]
    -- an earlier row keeps its representative, and the last one is kept unless it has one
    rcases List.mem_append.mp h with h | h
    · obtain ⟨kept, hkept, heq⟩ := ih h
      split
      · exact ⟨kept, hkept, heq⟩
      · exact ⟨kept, List.mem_append_left _ hkept, heq⟩
    · rw [List.mem_singleton.mp h]
      split
      · rename_i hany
        obtain ⟨kept, hkept, heq⟩ := List.any_eq_true.mp hany
        exact ⟨kept, hkept, by simpa using heq⟩
      · exact ⟨last, List.mem_append_right _ (List.mem_singleton.mpr rfl),
          shape.orderBy_self names last⟩

/-! ### Results -/

theorem storedNames_eq {shape : TableShape} (hdistinct : shape.HasDistinctNames)
    {names : List String} (h : ∀ name ∈ names, shape.HasColumn name) :
    storedNames shape names = names := by
  have hmap : storedNames shape names = names.map id := by
    apply List.map_congr_left
    intro name hmem
    obtain ⟨c, hfind, hname⟩ := (h name hmem).find? hdistinct
    rw [hfind]
    exact hname
  rw [hmap, List.map_id]

/-- A selection succeeds if its table is there and has the columns that it names. -/
theorem run_eq_ok_of_isSome {s : Selection} {db : Database} {t : StoredTable}
    (htable : db.table? s.table = some t)
    (hcolumns : ∀ name ∈ s.namedColumns, (t.shape.columnIndex? name).isSome = true) :
    s.run db = .ok (project t.shape (s.picked t) s.projection) := by
  have hfind : (s.namedColumns.find? fun c => (t.shape.columnIndex? c).isNone) = none := by
    rw [List.find?_eq_none]
    intro name hmem
    have hsome := hcolumns name hmem
    cases hindex : t.shape.columnIndex? name with
    | some i => simp
    | none => simp [hindex] at hsome
  unfold run
  rw [htable]
  simp only [hfind]

/-- A selection succeeds if its table has columns of exactly the names in it. -/
theorem run_eq_ok {s : Selection} {db : Database} {t : StoredTable}
    (htable : db.table? s.table = some t)
    (hcolumns : ∀ name ∈ s.namedColumns, t.shape.HasColumn name) :
    s.run db = .ok (project t.shape (s.picked t) s.projection) :=
  run_eq_ok_of_isSome htable fun name hmem => (hcolumns name hmem).isSome_columnIndex?

/-- A selection fails by a column that its table does not have. -/
theorem exists_run_eq_error {s : Selection} {db : Database} {t : StoredTable}
    (htable : db.table? s.table = some t) {name : String} (hmem : name ∈ s.namedColumns)
    (hmissing : t.shape.columnIndex? name = none) :
    ∃ c ∈ s.namedColumns,
      t.shape.columnIndex? c = none ∧ s.run db = .error (.noSuchColumn c) := by
  cases hfind : s.namedColumns.find? fun c => (t.shape.columnIndex? c).isNone with
  | none =>
    have hnot := List.find?_eq_none.mp hfind name hmem
    rw [hmissing] at hnot
    exact absurd rfl hnot
  | some c =>
    have hnone : (t.shape.columnIndex? c).isNone = true := by
      simpa using List.find?_some hfind
    refine ⟨c, List.mem_of_find?_eq_some hfind, Option.isNone_iff_eq_none.mp hnone, ?_⟩
    unfold run
    rw [htable]
    simp only [hfind]

end Selection

end NodeReport

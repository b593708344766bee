import NodeReport.Proofs.Table.Grouping
import NodeReport.Proofs.Text.Utf8

/-! # Groups of rows

  Rows are put into groups one after another: each row goes to the end of the group of its text, and a
  text that comes up for the first time opens a group. What the groups hold after some rows is kept by
  one row more, so at the end every row is in one group, and the row that stands for a group says
  which one it is, how many rows it has and what their totals are.

  * `holdsGroups_collectRow`, `holdsGroups_collectRows`: one row, and all rows;
  * `totalsBy_eq_collectRows`: totals by key are those of the collected groups;
  * `totalsBy_partitions`: the rows that stand for the groups.
-/

namespace NodeReport

variable {key : String}

/-! ### Collecting row by row -/

/-- Puts a row at the end of the group of its text. -/
def collectRow (key : String) (groups : Keyed (List Row)) (row : Row) : Keyed (List Row) :=
  groups.insert (row.groupText key) ((groups.get? (row.groupText key)).getD [] ++ [row])

/-- The groups of all rows. -/
def collectRows (key : String) (rows : List Row) : Keyed (List Row) :=
  rows.foldl (collectRow key) Keyed.empty

/-- The groups hold some rows: each of them in the group of its text, in order, and no group is
    empty. -/
def HoldsGroups (key : String) (rows : List Row) (groups : Keyed (List Row)) : Prop :=
  ∀ text, groups.get? text =
    if groupMembers rows key text = [] then none else some (groupMembers rows key text)

theorem groupMembers_concat (rows : List Row) (row : Row) (text : String) :
    groupMembers (rows ++ [row]) key text =
      if row.groupText key = text then groupMembers rows key text ++ [row]
      else groupMembers rows key text := by
  unfold groupMembers
  rw [List.filter_append]
  by_cases h : row.groupText key = text
  · simp [h]
  · simp [h]

/-- One row more is held, and the groups of other texts stay as they are. -/
theorem holdsGroups_collectRow {rows : List Row} {groups : Keyed (List Row)}
    (h : HoldsGroups key rows groups) (row : Row) :
    HoldsGroups key (rows ++ [row]) (collectRow key groups row) := by
  intro text
  unfold collectRow
  rw [Keyed.get?_insert, groupMembers_concat]
  by_cases htext : row.groupText key = text
  · -- the group is opened by this row, or it was there before
    have hgroup : (groups.get? text).getD [] = groupMembers rows key text := by
      rw [h text]
      split
      · rename_i hnil
        rw [hnil]
        rfl
      · rfl
    simp [htext, hgroup]
  · rw [if_neg (Ne.symm htext), if_neg htext]
    exact h text

/-- What the groups hold at the start they hold at the end, too, together with all rows between. -/
theorem holdsGroups_foldl {seen : List Row} {groups : Keyed (List Row)}
    (h : HoldsGroups key seen groups) (rows : List Row) :
    HoldsGroups key (seen ++ rows) (rows.foldl (collectRow key) groups) := by
  induction rows generalizing seen groups with
  | nil =>
    rw [List.append_nil]
    exact h
  | cons row rows ih =>
    have hrest := ih (holdsGroups_collectRow h row)
    rw [List.append_assoc, List.singleton_append] at hrest
    exact hrest

theorem holdsGroups_collectRows (rows : List Row) : HoldsGroups key rows (collectRows key rows) := by
  have hempty : HoldsGroups key [] Keyed.empty := fun _ => rfl
  exact holdsGroups_foldl hempty rows

/-! ### The collected groups -/

/-- A collected group holds the rows of its text. -/
theorem mem_entries_collectRows {rows : List Row} {group : String × List Row}
    (h : group ∈ (collectRows key rows).entries) : group.2 = groupMembers rows key group.1 := by
  have hget : (collectRows key rows).get? group.1 = some group.2 := Keyed.get?_eq_some_iff.mpr h
  rw [holdsGroups_collectRows rows group.1] at hget
  split at hget
  · cases hget
  · exact (Option.some.inj hget).symm

/-- The collected groups are those of the texts that rows have, each with the rows of its text. -/
theorem collectRows_eq (rows : List Row) :
    collectRows key rows =
      (NameSet.ofList (rows.map (Row.groupText key))).mapEntries fun text _ =>
        groupMembers rows key text := by
  refine Keyed.ext_get? ?_
  intro text
  rw [holdsGroups_collectRows rows text, Keyed.get?_mapEntries]
  by_cases htext : text ∈ groupTexts rows key
  · obtain ⟨value, hvalue⟩ := Keyed.mem_names_iff.mp htext
    rw [if_neg (mem_groupTexts_iff_ne_nil.mp htext), hvalue]
    rfl
  · -- no row has this text, so there is no group of it
    have hnil : groupMembers rows key text = [] := by
      by_contra hne
      exact htext (mem_groupTexts_iff_ne_nil.mpr hne)
    have hnone : (NameSet.ofList (rows.map (Row.groupText key))).get? text = none := by
      rw [Option.eq_none_iff_forall_ne_some]
      intro value hvalue
      exact htext (Keyed.mem_names_iff.mpr ⟨value, hvalue⟩)
    rw [if_pos hnil, hnone]
    rfl

theorem names_collectRows (rows : List Row) : (collectRows key rows).names = groupTexts rows key := by
  rw [collectRows_eq, Keyed.names_mapEntries]
  rfl

/-- Totals by key are taken from the collected groups, in the order of their texts. -/
theorem totalsBy_eq_collectRows (rows : List Row) (countColumn : String) (columns : List String) :
    totalsBy rows key countColumn columns =
      (collectRows key rows).entries.map fun group =>
        groupRow key countColumn (NameSet.ofList columns) group.1 group.2 := by
  unfold totalsBy
  rw [← names_collectRows, Keyed.names, List.map_map]
  apply List.map_congr_left
  intro group hgroup
  show groupRow _ _ _ group.1 (groupMembers rows key group.1) = _
  rw [mem_entries_collectRows hgroup]

/-! ### The rows that stand for groups -/

/-- A row that stands for the group of a text: it names the group, and has the number of its rows,
    their totals, and nothing else. -/
structure StandsForGroup (rows : List Row) (key countColumn : String) (columns : List String)
    (text : String) (row : Row) : Prop where
  /-- The text of the group. -/
  name : row.get? key = some (.text text)
  /-- How many rows have this text. -/
  size : row.get? countColumn = some (.integer (groupMembers rows key text).length)
  /-- The totals of these rows. -/
  totals : ∀ column ∈ columns, ∃ t,
    (columnTotals (groupMembers rows key text) (NameSet.ofList columns)).get? column = some t ∧
      row.get? column = some t.toCell
  /-- No other column. -/
  nothingElse : ∀ column, column ≠ key → column ≠ countColumn → column ∉ columns →
    row.get? column = none

variable {countColumn : String} {columns : List String}

theorem get?_groupRow_of_not_mem {text column : String} {members : List Row}
    (hkey : column ≠ key) (hcount : column ≠ countColumn) (hcolumn : column ∉ columns) :
    (groupRow key countColumn (NameSet.ofList columns) text members).get? column = none := by
  unfold groupRow
  simp only
  rw [Keyed.get?_insertAll, Keyed.get?_mapEntries, get?_columnTotals_of_not_mem members hcolumn,
    Keyed.get?_insert, if_neg hcount, Keyed.get?_insert, if_neg hkey]
  rfl

theorem standsForGroup_groupRow (rows : List Row) (hcount : key ≠ countColumn)
    (hkey : key ∉ columns) (hcountColumn : countColumn ∉ columns) (text : String) :
    StandsForGroup rows key countColumn columns text
      (groupRow key countColumn (NameSet.ofList columns) text (groupMembers rows key text)) where
  name := get?_groupRow_key hkey hcount
  size := get?_groupRow_count hcountColumn
  totals := by
    intro column hcolumn
    exact ⟨_, get?_columnTotals _ hcolumn, get?_groupRow hcolumn⟩
  nothingElse := by
    intro column hne hne' hcolumn
    exact get?_groupRow_of_not_mem hne hne' hcolumn

/-- Totals by key split the rows: there is one row for each text that a row has in the key column, in
    the order of the texts' bytes, and it stands for the rows with this text. Together these are all
    rows. -/
theorem totalsBy_partitions (rows : List Row) (hcount : key ≠ countColumn) (hkey : key ∉ columns)
    (hcountColumn : countColumn ∉ columns) :
    ∃ texts : List String,
      (texts.Pairwise fun a b => Text.utf8 a < Text.utf8 b) ∧
      (∀ text, text ∈ texts ↔ ∃ row ∈ rows, row.groupText key = text) ∧
      List.Forall₂ (StandsForGroup rows key countColumn columns) texts
        (totalsBy rows key countColumn columns) ∧
      (texts.map fun text => (groupMembers rows key text).length).sum = rows.length := by
  -- the texts are those under which the rows are collected
  refine ⟨(collectRows key rows).names, ?_, ?_, ?_, ?_⟩
  · exact (Keyed.pairwise_names _).imp Text.utf8_lt
  · intro text
    rw [names_collectRows]
    exact mem_groupTexts
  · rw [totalsBy_eq_collectRows, Keyed.names, List.forall₂_map_left_iff, List.forall₂_map_right_iff,
      List.forall₂_same]
    intro group hgroup
    rw [mem_entries_collectRows hgroup]
    exact standsForGroup_groupRow rows hcount hkey hcountColumn group.1
  · rw [names_collectRows, ← (flatMap_groupMembers_perm rows key).length_eq, List.length_flatMap]

/-- Rows without a code, with an empty one, and with the same one as a number and as a text. -/
def collidingRows : List Row :=
  [Keyed.ofList [("networkCode", .integer 7), ("requests", .integer 2)],
    Keyed.ofList [("networkCode", .null), ("requests", .integer 1)],
    Keyed.ofList [("requests", .integer 5)],
    Keyed.ofList [("networkCode", .text "7"), ("requests", .integer 4)],
    Keyed.ofList [("networkCode", .text "")]]

/-- Of five rows there are two groups. -/
theorem totalsBy_partitions_collidingRows :
    ("networkCode" ≠ "days" ∧ "networkCode" ∉ ["requests"] ∧ "days" ∉ ["requests"]) ∧
      ∃ texts : List String, texts.length = 2 ∧
        List.Forall₂ (StandsForGroup collidingRows "networkCode" "days" ["requests"]) texts
          (totalsBy collidingRows "networkCode" "days" ["requests"]) ∧
        (texts.map fun text => (groupMembers collidingRows "networkCode" text).length).sum = 5 := by
  have hcount : "networkCode" ≠ "days" := by decide
  have hkey : "networkCode" ∉ ["requests"] := by decide
  have hcountColumn : "days" ∉ ["requests"] := by decide
  obtain ⟨texts, -, -, hstands, hsum⟩ :=
    totalsBy_partitions collidingRows hcount hkey hcountColumn
  refine ⟨⟨hcount, hkey, hcountColumn⟩, texts, ?_, hstands, hsum⟩
  rw [hstands.length_eq]
  decide

end NodeReport

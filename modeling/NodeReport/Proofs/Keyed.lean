import NodeReport.Keyed

/-! # Finding values by name

  What is found under a name after each way of making a map: from a list of entries, by putting one
  map into another, and by replacing the values. A set of names holds each of its names once.
-/

namespace NodeReport

universe u v

namespace Keyed

variable {α : Type u} {β : Type v}

/-! ### Entries -/

/-- In a list with increasing names an entry is the only one of its name. -/
theorem find?_eq_some_of_mem {entries : List (String × α)} (hsorted : SortedByName entries)
    {name : String} {value : α} (h : (name, value) ∈ entries) :
    (entries.find? fun e => e.1 == name) = some (name, value) := by
  induction entries with
  | nil => simp at h
  | cons entry rest ih =>
    have hhead := (List.pairwise_cons.mp hsorted).1
    have htail := (List.pairwise_cons.mp hsorted).2
    rw [List.find?_cons]
    rcases List.mem_cons.mp h with heq | hrest
    · rw [← heq]
      simp
    · -- names increase, so none before the entry is the same
      have hne : entry.1 ≠ name := by
        intro heq
        have hlt := hhead (name, value) hrest
        rw [heq] at hlt
        exact String.lt_irrefl _ hlt
      have hbeq : (entry.1 == name) = false := by simpa using hne
      rw [hbeq]
      exact ih htail hrest

theorem get?_eq_some_iff {m : Keyed α} {name : String} {value : α} :
    m.get? name = some value ↔ (name, value) ∈ m.entries := by
  unfold get?
  constructor
  · intro h
    obtain ⟨entry, hfind, hvalue⟩ := Option.map_eq_some_iff.mp h
    have hmem := List.mem_of_find?_eq_some hfind
    have hname : entry.1 = name := by simpa using List.find?_some hfind
    rw [← hname, ← hvalue]
    exact hmem
  · intro h
    rw [find?_eq_some_of_mem m.sorted h]
    rfl

theorem mem_names_iff {m : Keyed α} {name : String} :
    name ∈ m.names ↔ ∃ value, m.get? name = some value := by
  unfold names
  rw [List.mem_map]
  constructor
  · rintro ⟨entry, hmem, rfl⟩
    exact ⟨entry.2, get?_eq_some_iff.mpr hmem⟩
  · rintro ⟨value, h⟩
    exact ⟨(name, value), get?_eq_some_iff.mp h, rfl⟩

theorem pairwise_names (m : Keyed α) : m.names.Pairwise (· < ·) := by
  unfold names
  rw [List.pairwise_map]
  exact m.sorted

theorem nodup_names (m : Keyed α) : m.names.Nodup := by
  refine m.pairwise_names.imp ?_
  intro a b hlt heq
  rw [heq] at hlt
  exact String.lt_irrefl _ hlt

/-! ### Lists of entries -/

/-- Of the entries that are put in one after another the last one of a name is found, and without
    any what was there before. -/
theorem get?_foldl_insert (entries : List (String × α)) (m : Keyed α) (name : String) :
    (entries.foldl (fun m e => m.insert e.1 e.2) m).get? name =
      ((entries.reverse.find? fun e => e.1 == name).map fun e => e.2).or (m.get? name) := by
  induction entries generalizing m with
  | nil => simp
  | cons entry rest ih =>
    rw [List.foldl_cons, ih, get?_insert, List.reverse_cons, List.find?_append]
    -- an entry put in later hides this one
    cases hfind : rest.reverse.find? fun e => e.1 == name with
    | some found => simp
    | none =>
      by_cases h : entry.1 = name
      · simp [h]
      · simp [h, Ne.symm h]

theorem get?_ofList (entries : List (String × α)) (name : String) :
    (ofList entries).get? name = (entries.reverse.find? fun e => e.1 == name).map fun e => e.2 := by
  unfold ofList
  rw [get?_foldl_insert]
  simp

/-- Every value of a map made from a list stands in the list. -/
theorem mem_of_get?_ofList {entries : List (String × α)} {name : String} {value : α}
    (h : (ofList entries).get? name = some value) : (name, value) ∈ entries := by
  rw [get?_ofList] at h
  obtain ⟨entry, hfind, hvalue⟩ := Option.map_eq_some_iff.mp h
  have hmem := List.mem_reverse.mp (List.mem_of_find?_eq_some hfind)
  have hname : entry.1 = name := by simpa using List.find?_some hfind
  rw [← hname, ← hvalue]
  exact hmem

/-- A name of the list is found. -/
theorem exists_get?_ofList {entries : List (String × α)} {name : String}
    (h : ∃ e ∈ entries, e.1 = name) : ∃ value, (ofList entries).get? name = some value := by
  obtain ⟨e, hmem, hname⟩ := h
  rw [get?_ofList]
  have hsome : (entries.reverse.find? fun e => e.1 == name).isSome = true := by
    rw [List.find?_isSome]
    exact ⟨e, List.mem_reverse.mpr hmem, by simpa using hname⟩
  obtain ⟨found, hfound⟩ := Option.isSome_iff_exists.mp hsome
  exact ⟨found.2, by rw [hfound]; rfl⟩

/-- What is under no name of the entries stays as it was. -/
theorem get?_foldl_insert_of_not_mem {entries : List (String × α)} {name : String}
    (h : name ∉ entries.map fun e => e.1) (m : Keyed α) :
    (entries.foldl (fun m e => m.insert e.1 e.2) m).get? name = m.get? name := by
  have hfind : (entries.reverse.find? fun e => e.1 == name) = none := by
    rw [List.find?_eq_none]
    intro e he heq
    exact h (List.mem_map.mpr ⟨e, List.mem_reverse.mp he, by simpa using heq⟩)
  rw [get?_foldl_insert, hfind]
  rfl

/-- If no two entries have the same name, each is found under its own. -/
theorem get?_foldl_insert_of_mem {entries : List (String × α)}
    (hnodup : (entries.map fun e => e.1).Nodup) {name : String} {value : α}
    (h : (name, value) ∈ entries) (m : Keyed α) :
    (entries.foldl (fun m e => m.insert e.1 e.2) m).get? name = some value := by
  induction entries generalizing m with
  | nil => simp at h
  | cons entry rest ih =>
    rw [List.map_cons, List.nodup_cons] at hnodup
    rw [List.foldl_cons]
    rcases List.mem_cons.mp h with rfl | hrest
    · -- no later entry has this name, so the one put in first is still there
      rw [get?_foldl_insert_of_not_mem hnodup.1, get?_insert, if_pos rfl]
    · exact ih hnodup.2 hrest _

/-- A map made from a list without repeated names has exactly the entries of the list. -/
theorem get?_ofList_eq_some_iff {entries : List (String × α)}
    (hnodup : (entries.map fun e => e.1).Nodup) {name : String} {value : α} :
    (ofList entries).get? name = some value ↔ (name, value) ∈ entries := by
  constructor
  · intro h
    exact mem_of_get?_ofList h
  · intro h
    exact get?_foldl_insert_of_mem hnodup h empty

/-! ### Equal maps -/

/-- Maps with the same values under all names are equal. -/
theorem ext_get? {a b : Keyed α} (h : ∀ name, a.get? name = b.get? name) : a = b := by
  have hmem : ∀ e, e ∈ a.entries ↔ e ∈ b.entries := by
    intro e
    rw [← get?_eq_some_iff, ← get?_eq_some_iff, h e.1]
  have hnodup : ∀ m : Keyed α, m.entries.Nodup := fun m =>
    List.Pairwise.of_map (fun e : String × α => e.1) (fun x y hne heq => hne (by rw [heq]))
      m.nodup_names
  -- names increase, so of two different entries only one can come first
  have hperm := (List.perm_ext_iff_of_nodup (hnodup a) (hnodup b)).mpr hmem
  refine eq_of_entries_eq (hperm.eq_of_pairwise ?_ a.sorted b.sorted)
  intro x y _ _ hxy hyx
  exact absurd (String.lt_trans hxy hyx) (String.lt_irrefl _)

/-- A map is made again from its entries. -/
theorem ofList_entries (m : Keyed α) : ofList m.entries = m := by
  refine ext_get? fun name => Option.ext fun value => ?_
  rw [get?_ofList_eq_some_iff m.nodup_names, get?_eq_some_iff]

/-! ### Maps from maps -/

theorem names_mapEntries (m : Keyed α) (f : String → α → β) : (m.mapEntries f).names = m.names := by
  unfold names mapEntries
  rw [List.map_map]
  rfl

theorem get?_mapEntries (m : Keyed α) (f : String → α → β) (name : String) :
    (m.mapEntries f).get? name = (m.get? name).map (f name) := by
  unfold get? mapEntries
  rw [List.find?_map, Option.map_map, Option.map_map]
  have hfun : ((fun e : String × β => e.1 == name) ∘ fun e : String × α => (e.1, f e.1 e.2)) =
      fun e => e.1 == name := rfl
  rw [hfun]
  cases hfind : m.entries.find? fun e => e.1 == name with
  | none => rfl
  | some e =>
    have hname : e.1 = name := by simpa using List.find?_some hfind
    simp [hname]

/-- Taking an entry out leaves the other names alone. -/
theorem get?_erase_of_ne (m : Keyed α) {name other : String} (h : other ≠ name) :
    (m.erase name).get? other = m.get? other := by
  have hsame : (fun e : String × α => decide ((e.1 != name) = true ∧ (e.1 == other) = true)) =
      fun e => e.1 == other := by
    funext e
    by_cases heq : e.1 = other
    · simp [heq, h]
    · simp [heq]
  unfold get? erase
  rw [List.find?_filter, hsame]

/-- Of two values under a name the one that was put in last is found. -/
theorem get?_insertAll (m other : Keyed α) (name : String) :
    (m.insertAll other).get? name = (other.get? name).or (m.get? name) := by
  -- names do not repeat within a map, so the direction of the search does not matter
  have hsame : (other.entries.reverse.find? fun e => e.1 == name).map (fun e => e.2) =
      other.get? name := by
    cases hget : other.get? name with
    | some value =>
      have hmem := get?_eq_some_iff.mp hget
      obtain ⟨found, hfound⟩ := exists_get?_ofList ⟨_, hmem, rfl⟩
      have hfound' := hfound
      rw [get?_ofList] at hfound'
      have hvalue := get?_eq_some_iff.mpr (mem_of_get?_ofList hfound)
      rw [hget] at hvalue
      rw [hfound', hvalue]
    | none =>
      cases hfind : other.entries.reverse.find? fun e => e.1 == name with
      | none => rfl
      | some e =>
        have hmem := List.mem_reverse.mp (List.mem_of_find?_eq_some hfind)
        have hname : e.1 = name := by simpa using List.find?_some hfind
        have hsome := get?_eq_some_iff.mpr (show (name, e.2) ∈ other.entries by rw [← hname]; exact hmem)
        rw [hget] at hsome
        cases hsome
  unfold insertAll
  rw [get?_foldl_insert, hsame]

end Keyed

/-! ### Sets of names -/

namespace NameSet

theorem mem_names_ofList {names : List String} {name : String} :
    name ∈ (ofList names).names ↔ name ∈ names := by
  rw [Keyed.mem_names_iff]
  unfold ofList
  constructor
  · rintro ⟨value, h⟩
    obtain ⟨other, hmem, heq⟩ := List.mem_map.mp (Keyed.mem_of_get?_ofList h)
    cases heq
    exact hmem
  · intro h
    exact Keyed.exists_get?_ofList ⟨(name, ()), List.mem_map.mpr ⟨name, h, rfl⟩, rfl⟩

theorem get?_ofList_of_mem {names : List String} {name : String} (h : name ∈ names) :
    (ofList names).get? name = some () := by
  obtain ⟨value, hvalue⟩ := Keyed.mem_names_iff.mp (mem_names_ofList.mpr h)
  exact hvalue

/-- A set is made again from its names. -/
theorem ofList_names (s : NameSet) : ofList s.names = s := by
  have hentries : (s.names.map fun n => (n, ())) = s.entries := by
    unfold Keyed.names
    rw [List.map_map]
    exact List.map_id _
  unfold ofList
  rw [hentries]
  exact Keyed.ofList_entries s

end NameSet

end NodeReport

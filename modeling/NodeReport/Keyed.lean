/-! # Values by name

  A finite map from names to values, held as a list in increasing order of names, so that two maps
  with the same entries are equal. Names are ordered by code point, which is the order of their
  UTF-8 bytes.
-/

namespace NodeReport

universe u v

/-- A list of entries in strictly increasing order of names. -/
def SortedByName {α : Type u} (entries : List (String × α)) : Prop :=
  entries.Pairwise fun a b => a.1 < b.1

/-- A finite map from names to values. -/
structure Keyed (α : Type u) where
  /-- The entries, in order of names. -/
  entries : List (String × α)
  /-- The names increase strictly. -/
  sorted : SortedByName entries

namespace Keyed

variable {α : Type u} {β : Type v}

/-- Maps with the same entries are equal. -/
theorem eq_of_entries_eq {a b : Keyed α} (h : a.entries = b.entries) : a = b := by
  cases a
  cases b
  cases h
  rfl

instance [DecidableEq α] : DecidableEq (Keyed α) := fun a b =>
  decidable_of_iff (a.entries = b.entries) ⟨eq_of_entries_eq, fun h => h ▸ rfl⟩

/-! ### Entries in order -/

/-- Puts an entry into its place, instead of one with the same name. -/
def insertEntry (name : String) (value : α) : List (String × α) → List (String × α)
  | [] => [(name, value)]
  | entry :: rest =>
    if name < entry.1 then (name, value) :: entry :: rest
    else if entry.1 < name then entry :: insertEntry name value rest
    else (name, value) :: rest

theorem mem_insertEntry {name : String} {value : α} {p : String × α}
    {entries : List (String × α)} (h : p ∈ insertEntry name value entries) :
    p = (name, value) ∨ p ∈ entries := by
  induction entries with
  | nil => simpa [insertEntry] using h
  | cons entry rest ih =>
    rw [insertEntry] at h
    split at h
    · simpa using h
    · split at h
      · rcases List.mem_cons.1 h with h | h
        · simp [h]
        · rcases ih h with h | h <;> simp [h]
      · rcases List.mem_cons.1 h with h | h <;> simp [h]

theorem sorted_insertEntry (name : String) (value : α) {entries : List (String × α)}
    (h : SortedByName entries) : SortedByName (insertEntry name value entries) := by
  induction entries with
  | nil => exact List.pairwise_singleton _ _
  | cons entry rest ih =>
    have head := (List.pairwise_cons.1 h).1
    have tail := (List.pairwise_cons.1 h).2
    rw [insertEntry]
    split
    · rename_i before
      refine List.pairwise_cons.2 ⟨?_, h⟩
      intro p hp
      rcases List.mem_cons.1 hp with rfl | hp
      · exact before
      · exact String.lt_trans before (head p hp)
    · split
      · rename_i after
        refine List.pairwise_cons.2 ⟨?_, ih tail⟩
        intro p hp
        rcases mem_insertEntry hp with rfl | hp
        · exact after
        · exact head p hp
      · rename_i notBefore notAfter
        have same : name = entry.1 :=
          String.le_antisymm (String.not_lt.1 notAfter) (String.not_lt.1 notBefore)
        refine List.pairwise_cons.2 ⟨?_, tail⟩
        intro p hp
        simpa [same] using head p hp

/-! ### Maps -/

/-- The map without entries. -/
def empty : Keyed α := ⟨[], List.Pairwise.nil⟩

instance : Inhabited (Keyed α) := ⟨empty⟩

/-- The map with this value under this name. -/
def insert (m : Keyed α) (name : String) (value : α) : Keyed α :=
  ⟨insertEntry name value m.entries, sorted_insertEntry name value m.sorted⟩

/-- The map without the entry of this name. -/
def erase (m : Keyed α) (name : String) : Keyed α :=
  ⟨m.entries.filter fun e => e.1 != name, m.sorted.filter _⟩

/-- The map of the entries of a list; the last one with a name wins. -/
def ofList (entries : List (String × α)) : Keyed α :=
  entries.foldl (fun m e => m.insert e.1 e.2) empty

/-- The value under a name. -/
def get? (m : Keyed α) (name : String) : Option α :=
  (m.entries.find? fun e => e.1 == name).map fun e => e.2

/-- Whether there is a value under a name. -/
def contains (m : Keyed α) (name : String) : Bool :=
  (m.get? name).isSome

/-- The names, in order. -/
def names (m : Keyed α) : List String :=
  m.entries.map fun e => e.1

/-- Whether there are no entries. -/
def isEmpty (m : Keyed α) : Bool :=
  m.entries.isEmpty

/-- The map with each value replaced, as its name and value say. -/
def mapEntries (m : Keyed α) (f : String → α → β) : Keyed β where
  entries := m.entries.map fun e => (e.1, f e.1 e.2)
  sorted := by
    simpa [SortedByName, List.pairwise_map] using m.sorted

/-- The entries of one map put into another. -/
def insertAll (m other : Keyed α) : Keyed α :=
  other.entries.foldl (fun m e => m.insert e.1 e.2) m

@[simp]
theorem get?_empty (name : String) : (empty : Keyed α).get? name = none := rfl

/-- A name is found under the value that was put in last. -/
theorem get?_insert (m : Keyed α) (name other : String) (value : α) :
    (m.insert name value).get? other = if other = name then some value else m.get? other := by
  simp only [get?, insert]
  generalize m.entries = entries
  induction entries with
  | nil =>
    by_cases h : name = other
    · simp [insertEntry, h]
    · simp [insertEntry, h, Ne.symm h]
  | cons entry rest ih =>
    simp only [insertEntry]
    split
    · by_cases h : name = other
      · simp [h]
      · simp [h, Ne.symm h]
    · split
      · rename_i after
        rw [List.find?_cons, List.find?_cons]
        by_cases h : entry.1 = other
        · have hne : other ≠ name := by
            intro same
            rw [h, same] at after
            exact String.lt_irrefl _ after
          simp [h, hne]
        · have hne : (entry.1 == other) = false := by simpa using h
          simpa [hne] using ih
      · rename_i notBefore notAfter
        have same : name = entry.1 :=
          String.le_antisymm (String.not_lt.1 notAfter) (String.not_lt.1 notBefore)
        by_cases h : name = other
        · simp [h]
        · have hne : entry.1 ≠ other := same ▸ h
          simp [h, Ne.symm h, hne]

end Keyed

/-! ### Sets of names -/

/-- A finite set of names. -/
abbrev NameSet := Keyed Unit

namespace NameSet

/-- The set of the members of a list. -/
def ofList (names : List String) : NameSet :=
  Keyed.ofList (names.map fun n => (n, ()))

end NameSet

end NodeReport

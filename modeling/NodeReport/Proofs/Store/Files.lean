import NodeReport.Store.Files

/-! # Trees that keep their directories

  A path is followed through directories, each of which must be allowed to be read. What else is
  made, changed or removed in a tree makes no difference to a path that can be followed, and a
  directory that was made is there the next time.
-/

namespace NodeReport

namespace FileSystem

variable {fs after : FileSystem} {place other : Place}

/-! ### What stands at a place -/

theorem at?_of_isGiven (h : place.isGiven = true) : fs.at? place = some .directory := by
  unfold at?
  rw [if_pos h]

/-- The working directory and what is above it cannot be taken away, so a place with something else
    is none of them. -/
theorem isGiven_eq_false (h : fs.at? place ≠ some .directory) : place.isGiven = false := by
  cases hgiven : place.isGiven with
  | false => rfl
  | true => exact absurd (at?_of_isGiven hgiven) h

theorem at?_erase_self (h : place.isGiven = false) : (fs.erase place).at? place = none := by
  unfold at? erase
  rw [h, if_neg Bool.false_ne_true, List.find?_filter, Option.map_eq_none_iff, List.find?_eq_none]
  intro e _
  simp

theorem at?_erase_of_ne (h : other ≠ place) : (fs.erase place).at? other = fs.at? other := by
  unfold at? erase
  split
  · rfl
  · rw [List.find?_filter]
    congr 2
    funext e
    cases heq : e.1 == other with
    | false => simp
    | true =>
      -- an entry of the other place is kept
      have hne : e.1 ≠ place := by
        rw [beq_iff_eq.mp heq]
        exact h
      simp [hne]

theorem at?_put_self {node : FileNode} (h : place.isGiven = false) :
    (fs.put place node).at? place = some node := by
  unfold at? put
  rw [h, if_neg Bool.false_ne_true]
  dsimp only
  rw [List.find?_cons_of_pos (by exact beq_self_eq_true place)]
  rfl

theorem at?_put_of_ne {node : FileNode} (h : other ≠ place) :
    (fs.put place node).at? other = fs.at? other := by
  have hkept : (fs.erase place).at? other = fs.at? other := at?_erase_of_ne h
  rw [← hkept]
  unfold at? put
  dsimp only
  rw [List.find?_cons_of_neg (by simpa using h.symm)]

/-! ### Rights -/

theorem allows_erase_of_ne (h : other ≠ place) (right : Right) :
    (fs.erase place).allows right other = fs.allows right other := by
  unfold allows erase
  simp [List.contains_eq_mem, h]

theorem allows_put_of_ne {node : FileNode} (h : other ≠ place) (right : Right) :
    (fs.put place node).allows right other = fs.allows right other := by
  by_cases hsome : (fs.at? place).isSome = true
  · unfold put allows
    rw [if_pos hsome]
  · have hkept : (fs.erase place).allows right other = fs.allows right other :=
      allows_erase_of_ne h right
    rw [← hkept]
    unfold put allows
    rw [if_neg hsome]

/-- What is made anew has all rights. -/
theorem allows_put_of_none {node : FileNode} (h : fs.at? place = none) (right : Right) :
    (fs.put place node).allows right place = true := by
  unfold allows put erase
  simp [h]

theorem allows_copyRights_of_ne {source : Place} (h : other ≠ place) (right : Right) :
    (fs.copyRights source place).allows right other = fs.allows right other := by
  unfold allows copyRights
  simp [List.contains_eq_mem, h, h.symm]

/-- Whether all rights in a tree are still there in another. -/
def KeepsRights (fs after : FileSystem) : Prop :=
  ∀ right place, fs.allows right place = true → after.allows right place = true

namespace KeepsRights

theorem refl (fs : FileSystem) : fs.KeepsRights fs :=
  fun _ _ h => h

theorem trans {last : FileSystem} (h : fs.KeepsRights after) (h' : after.KeepsRights last) :
    fs.KeepsRights last :=
  fun right place hright => h' right place (h right place hright)

theorem erase (fs : FileSystem) (place : Place) : fs.KeepsRights (fs.erase place) := by
  intro right other hright
  unfold allows FileSystem.erase at *
  simp only [List.contains_eq_mem, Bool.not_eq_true', decide_eq_false_iff_not] at hright ⊢
  exact fun hmem => hright (List.mem_filter.mp hmem).1

theorem put (fs : FileSystem) (place : Place) (node : FileNode) :
    fs.KeepsRights (fs.put place node) := by
  intro right other hright
  by_cases hsome : (fs.at? place).isSome = true
  · unfold FileSystem.put allows
    rw [if_pos hsome]
    exact hright
  · have herase := erase fs place right other hright
    unfold FileSystem.put allows
    rw [if_neg hsome]
    exact herase

end KeepsRights

/-! ### Directories -/

/-- Whether every directory of a tree is still one in another, with the same rights. -/
def KeepsDirectories (fs after : FileSystem) : Prop :=
  ∀ place, fs.at? place = some .directory →
    after.at? place = some .directory ∧
      ∀ right, after.allows right place = fs.allows right place

namespace KeepsDirectories

theorem refl (fs : FileSystem) : fs.KeepsDirectories fs :=
  fun _ h => ⟨h, fun _ => rfl⟩

theorem trans {last : FileSystem} (h : fs.KeepsDirectories after)
    (h' : after.KeepsDirectories last) : fs.KeepsDirectories last := by
  intro place hplace
  obtain ⟨hafter, hallows⟩ := h place hplace
  obtain ⟨hlast, hallows'⟩ := h' place hafter
  exact ⟨hlast, fun right => (hallows' right).trans (hallows right)⟩

/-- A directory that is put where nothing was does not replace another. -/
theorem put (h : fs.at? place ≠ some .directory) (node : FileNode) :
    fs.KeepsDirectories (fs.put place node) := by
  intro other hother
  have hne : other ≠ place := by
    intro heq
    exact h (heq ▸ hother)
  rw [at?_put_of_ne hne]
  exact ⟨hother, allows_put_of_ne hne⟩

/-- A path that can be followed leads to the same place. -/
theorem walk (h : fs.KeepsDirectories after) {names : List String} {target : Place}
    (hwalk : fs.walk place names = .ok target) : after.walk place names = .ok target := by
  induction names generalizing place with
  | nil => exact hwalk
  | cons name rest ih =>
    unfold FileSystem.walk at hwalk ⊢
    split at hwalk
    · cases hwalk
    · cases hwalk
    · -- only a directory lets the walk go on, and it is still one
      rename_i hdirectory
      obtain ⟨hat, hallows⟩ := h place hdirectory
      rw [hat]
      dsimp only
      rw [hallows]
      split at hwalk
      · cases hwalk
      · rename_i hright
        rw [if_neg hright]
        split at hwalk
        · cases hwalk
        · rename_i hshort
          rw [if_neg hshort]
          exact ih hwalk

theorem follow (h : fs.KeepsDirectories after) {path : String} {names : List String}
    {target : Place} (hfollow : fs.follow path names = .ok target) :
    after.follow path names = .ok target := by
  unfold FileSystem.follow at hfollow ⊢
  split at hfollow
  · cases hfollow
  · exact h.walk hfollow

end KeepsDirectories

theorem isDirectory_iff {path : String} :
    fs.isDirectory path = true ↔
      ∃ place, fs.follow path (Path.names path) = .ok place ∧ fs.at? place = some .directory := by
  unfold isDirectory find
  cases fs.follow path (Path.names path) with
  | error e => simp [bind, Except.bind]
  | ok place =>
    simp only [bind, Except.bind, Except.ok.injEq]
    cases hat : fs.at? place with
    | none => simp [hat]
    | some node =>
      cases node with
      | directory => simp [hat]
      | file content modified =>
        cases Path.isSlashed path with
        | true => simp [hat]
        | false => simp [hat]

/-! ### Trees that differ in some files -/

/-- Whether a tree has the directories of another and differs from it at most in what may be left at
    some places. -/
structure SameExcept (fs after : FileSystem) (left : Place → Option FileNode → Prop) : Prop where
  /-- What stands at a place is what stood there, or is left there. -/
  at?_eq : ∀ place, after.at? place = fs.at? place ∨ left place (after.at? place)
  /-- The rights at a place are those that were there, unless something may be left there. -/
  allows_eq : ∀ place right,
    after.allows right place = fs.allows right place ∨ ∃ node, left place node
  /-- The directories. -/
  keeps : fs.KeepsDirectories after
  /-- There are no more of them. -/
  kept : after.KeepsDirectories fs

namespace SameExcept

variable {left : Place → Option FileNode → Prop}

theorem refl (fs : FileSystem) (left : Place → Option FileNode → Prop) : fs.SameExcept fs left :=
  ⟨fun _ => .inl rfl, fun _ _ => .inl rfl, KeepsDirectories.refl fs, KeepsDirectories.refl fs⟩

theorem trans {last : FileSystem} (h : fs.SameExcept after left)
    (h' : after.SameExcept last left) : fs.SameExcept last left where
  at?_eq := by
    intro place
    rcases h'.at?_eq place with hlast | hleft
    · rw [hlast]
      exact h.at?_eq place
    · exact .inr hleft
  allows_eq := by
    intro place right
    rcases h'.allows_eq place right with hlast | hleft
    · rw [hlast]
      exact h.allows_eq place right
    · exact .inr hleft
  keeps := h.keeps.trans h'.keeps
  kept := h'.kept.trans h.kept

/-- A tree that differs in what is no directory at one place. -/
theorem of_at {node : Option FileNode} (h : fs.at? place ≠ some .directory)
    (hleft : left place node) (hself : after.at? place = fs.at? place ∨ after.at? place = node)
    (hafter : after.at? place ≠ some .directory)
    (hat : ∀ other, other ≠ place → after.at? other = fs.at? other)
    (hallows : ∀ other, other ≠ place → ∀ right,
      after.allows right other = fs.allows right other) : fs.SameExcept after left where
  at?_eq := by
    intro other
    by_cases heq : other = place
    · rw [heq]
      rcases hself with hsame | hnode
      · exact .inl hsame
      · rw [hnode]
        exact .inr hleft
    · exact .inl (hat other heq)
  allows_eq := by
    intro other right
    by_cases heq : other = place
    · exact .inr ⟨node, heq ▸ hleft⟩
    · exact .inl (hallows other heq right)
  keeps := by
    intro other hother
    have hne : other ≠ place := fun heq => h (heq ▸ hother)
    exact ⟨(hat other hne).trans hother, hallows other hne⟩
  kept := by
    intro other hother
    have hne : other ≠ place := fun heq => hafter (heq ▸ hother)
    exact ⟨(hat other hne).symm.trans hother, fun right => (hallows other hne right).symm⟩

/-- What is taken away is no directory. -/
theorem erase (h : fs.at? place ≠ some .directory) (hleft : left place none) :
    fs.SameExcept (fs.erase place) left := by
  have hat : (fs.erase place).at? place = none := at?_erase_self (isGiven_eq_false h)
  refine of_at h hleft (.inr hat) ?_ (fun _ => at?_erase_of_ne) fun _ => allows_erase_of_ne
  rw [hat]
  exact nofun

/-- A file takes no directory's place. -/
theorem put (h : fs.at? place ≠ some .directory) {content : FileContent} {modified : Instant}
    (hleft : left place (some (.file content modified))) :
    fs.SameExcept (fs.put place (.file content modified)) left := by
  have hat : (fs.put place (.file content modified)).at? place = some (.file content modified) :=
    at?_put_self (isGiven_eq_false h)
  refine of_at h hleft (.inr hat) ?_ (fun _ => at?_put_of_ne) fun _ => allows_put_of_ne
  rw [hat]
  exact nofun

/-- The same paths can be followed. -/
theorem follow_iff (h : fs.SameExcept after left) {path : String} {names : List String}
    {target : Place} :
    after.follow path names = .ok target ↔ fs.follow path names = .ok target :=
  ⟨h.kept.follow, h.keeps.follow⟩

theorem directory_iff (h : fs.SameExcept after left) (place : Place) :
    after.at? place = some .directory ↔ fs.at? place = some .directory :=
  ⟨fun hplace => (h.kept place hplace).1, fun hplace => (h.keeps place hplace).1⟩

/-- Other rights of what is no directory change nothing else. -/
theorem copyRights {node : Option FileNode} (h : fs.SameExcept after left)
    (hnot : fs.at? place ≠ some .directory) (hleft : left place node) (source : Place) :
    fs.SameExcept (after.copyRights source place) left := by
  have hafter : after.at? place ≠ some .directory :=
    fun hdirectory => hnot ((h.directory_iff place).mp hdirectory)
  have hrights : after.SameExcept (after.copyRights source place) left :=
    of_at hafter hleft (.inl rfl) hafter (fun _ _ => rfl) fun _ => allows_copyRights_of_ne
  exact h.trans hrights

end SameExcept

/-! ### Directories that are made -/

/-- A directory that is there cannot be made again. -/
theorem makeDirectory_eq_error {path : String} (h : fs.isDirectory path = true) :
    fs.makeDirectory path = .error .alreadyExists := by
  obtain ⟨place, hfollow, hat⟩ := isDirectory_iff.mp h
  unfold makeDirectory
  simp only [hfollow, bind, Except.bind, hat]
  split <;> rfl

theorem ensureDirectory_of_isDirectory {path : String} (h : fs.isDirectory path = true) :
    fs.ensureDirectory path = .ok fs := by
  unfold ensureDirectory
  rw [makeDirectory_eq_error h]
  dsimp only
  rw [if_pos h]

/-- Making a directory keeps the others. -/
theorem makeDirectory_eq_ok {path : String} (h : fs.makeDirectory path = .ok after) :
    fs.KeepsDirectories after ∧ after.isDirectory path = true := by
  unfold makeDirectory at h
  simp only [bind, Except.bind] at h
  split at h
  · split at h
    · cases h
    · cases h
  · split at h
    · cases h
    · rename_i place hfollow
      split at h
      · cases h
      · split at h
        case isFalse => cases h
        rename_i hnone _
        cases h
        have hnot : fs.at? place ≠ some .directory := by
          rw [hnone]
          exact nofun
        have hkeeps := KeepsDirectories.put hnot .directory
        exact ⟨hkeeps, isDirectory_iff.mpr
          ⟨place, hkeeps.follow hfollow, at?_put_self (isGiven_eq_false hnot)⟩⟩

theorem ensureDirectory_eq_ok {path : String} (h : fs.ensureDirectory path = .ok after) :
    fs.KeepsDirectories after ∧ after.isDirectory path = true := by
  unfold ensureDirectory at h
  split at h
  · split at h
    · rename_i hdirectory
      cases h
      exact ⟨KeepsDirectories.refl _, hdirectory⟩
    · cases h
  · exact makeDirectory_eq_ok h

theorem ensureAll_eq_ok {path : String} {above : List String}
    (h : fs.ensureAll (path :: above) = (after, .ok ())) : after.isDirectory path = true := by
  -- the directory is made at once, or after those above it
  unfold ensureAll at h
  split at h
  · rename_i hensure
    cases h
    exact (ensureDirectory_eq_ok hensure).2
  · split at h
    · cases h
    · split at h
      · rename_i hensure
        cases h
        exact (ensureDirectory_eq_ok hensure).2
      · cases h
  · cases h

/-- A directory that is there, with all above it, is not made again. -/
theorem makeDirectories_of_isDirectory {path : String}
    (h : (Path.components path).isEmpty = false → fs.isDirectory path = true) :
    fs.makeDirectories path = (fs, .ok ()) := by
  unfold makeDirectories
  split
  · rfl
  · rename_i hcomponents
    unfold ensureAll
    rw [ensureDirectory_of_isDirectory (h (by simpa using hcomponents))]

theorem makeDirectories_eq_ok {path : String} (h : fs.makeDirectories path = (after, .ok ()))
    (hcomponents : (Path.components path).isEmpty = false) : after.isDirectory path = true := by
  unfold makeDirectories at h
  rw [hcomponents, if_neg Bool.false_ne_true] at h
  exact ensureAll_eq_ok h

end FileSystem

end NodeReport

import Mathlib.Data.List.TakeWhile
import NodeReport.Proofs.Store.Files
import NodeReport.Store.DatabaseFile

/-! # What reading a database changes

  A database that is opened to be read stays as it is, and so does everything else, but for what
  stands beside its file. If the file is blank, a log with something in it is removed. If the
  database is found through a log, it gets an empty log where there is none, and a new index of it.

  * `FileSystem.afterOpening_sameExcept`: what may be left, and where.
-/

namespace NodeReport

/-! ### Addresses without options -/

namespace DatabaseAddress

end DatabaseAddress

namespace FileSystem

variable {fs : FileSystem} {now : Instant} {path : String} {place file : Place}
  {content : FileContent} {left : Place → Option FileNode → Prop}

theorem touch_of_some {node : FileNode} (h : fs.at? file = some node) (now : Instant)
    (readOnly : Bool) : fs.touch now (.file file readOnly) = fs := by
  unfold touch
  simp only [h]

theorem touch_of_none (h : fs.at? file = none) (now : Instant) (readOnly : Bool) :
    fs.touch now (.file file readOnly) = fs.put file (.file (.text "") now) := by
  unfold touch
  simp only [h]

theorem settleFor_of_file {modified : Instant} (h : fs.at? file = some (.file content modified))
    (now : Instant) (readOnly : Bool) :
    fs.settleFor now (.file file readOnly) =
      if readOnly then fs.leave now file content else fs.settle now file content := by
  unfold settleFor
  simp only [h]

/-- Something that holds a content is no directory. -/
theorem ne_directory_of_holds {p : FileContent → Bool}
    (h : (fs.at? place).any (FileNode.holds p) = true) : fs.at? place ≠ some .directory := by
  intro hdirectory
  rw [hdirectory] at h
  cases h

/-- A file that is taken away leaves nothing. -/
theorem SameExcept.eraseIf {p : FileContent → Bool}
    (hleft : (fs.at? place).any (FileNode.holds p) = true → left place none) :
    fs.SameExcept (fs.eraseIf place p) left := by
  unfold FileSystem.eraseIf
  by_cases hholds : (fs.at? place).any (FileNode.holds p) = true
  · rw [if_pos hholds]
    exact SameExcept.erase (ne_directory_of_holds hholds) (hleft hholds)
  · rw [if_neg hholds]
    exact SameExcept.refl fs left

/-- What can be written is no directory. -/
theorem ne_directory_of_canWrite (h : fs.canWrite place = true) :
    fs.at? place ≠ some .directory := by
  intro hdirectory
  unfold canWrite at h
  rw [hdirectory] at h
  cases h

/-- Where nothing is in a file, there is no directory. -/
theorem ne_directory_of_isFilled (h : ¬ fs.isFilled place = true) :
    fs.at? place ≠ some .directory := by
  intro hdirectory
  apply h
  unfold isFilled
  rw [hdirectory]
  rfl

/-- A file with something in it is filled. -/
theorem isFilled_of_holds (h : (fs.at? place).any (FileNode.holds FileContent.isNonempty) = true) :
    fs.isFilled place = true := by
  unfold isFilled
  rw [Option.any_eq_true] at h ⊢
  obtain ⟨node, hnode, hholds⟩ := h
  exact ⟨node, hnode, Bool.or_eq_true_iff.mpr (.inr hholds)⟩

/-- A log that is missing is made, and one with nothing in it has other rights at most. -/
theorem SameExcept.ensureLog
    (hleft : fs.isFilled (logOf file) = false → left (logOf file) (some (.file (.text "") now))) :
    fs.SameExcept (fs.ensureLog now file) left := by
  unfold FileSystem.ensureLog
  dsimp only
  by_cases hfilled : fs.isFilled (logOf file) = true
  · have hsome : (fs.at? (logOf file)).isSome = true := by
      unfold isFilled at hfilled
      exact Option.isSome_of_any hfilled
    rw [if_pos hfilled, if_pos hsome]
    exact SameExcept.refl fs left
  · have hlog := hleft (Bool.eq_false_iff.mpr hfilled)
    have hnot := ne_directory_of_isFilled hfilled
    -- the log is made before it gets its rights
    rw [if_neg hfilled]
    refine SameExcept.copyRights ?_ hnot hlog file
    split
    · exact SameExcept.refl fs left
    · exact SameExcept.put hnot hlog

/-- An index is new, or has other rights at most. -/
theorem SameExcept.renewIndex (hleft : left (indexOf file) (some (.file .logIndex now))) :
    fs.SameExcept (fs.renewIndex now file) left := by
  unfold FileSystem.renewIndex
  split
  · exact SameExcept.refl fs left
  · dsimp only
    have hput : fs.SameExcept (if fs.canWrite (indexOf file) then
        fs.put (indexOf file) (.file .logIndex now) else fs) left := by
      split
      · rename_i hcan
        exact SameExcept.put (ne_directory_of_canWrite hcan) hleft
      · exact SameExcept.refl fs left
    split
    · exact hput
    · rename_i hfilled
      exact hput.copyRights (ne_directory_of_isFilled hfilled) hleft file

/-! ### What is left -/

/-- What may be left beside a database that was read, and where. -/
inductive LeftBeside (fs : FileSystem) (now : Instant) (file : Place) (content : FileContent) :
    Place → Option FileNode → Prop where
  /-- The file is blank: a log with something in it is removed. -/
  | noLog (hblank : content.isBlank = true) (hlog : fs.isFilled (logOf file) = true) :
    LeftBeside fs now file content (logOf file) none
  /-- The database keeps a log: there is an empty one if there was nothing in it. -/
  | emptyLog (hmode : content.mode = .log) (hlog : fs.isFilled (logOf file) = false) :
    LeftBeside fs now file content (logOf file) (some (.file (.text "") now))
  /-- The database is found through a log, which gets an index. -/
  | index (hlogged : fs.isLogged file content = true) :
    LeftBeside fs now file content (indexOf file) (some (.file .logIndex now))

theorem SameExcept.leaveIndex (fs : FileSystem) (now : Instant) (file : Place)
    (content : FileContent) :
    fs.SameExcept (fs.leaveIndex now file content) (fs.LeftBeside now file content) := by
  unfold FileSystem.leaveIndex
  by_cases hblank : content.isBlank = true
  · rw [if_pos hblank]
    split
    · exact SameExcept.refl fs _
    · exact SameExcept.eraseIf fun hholds => .noLog hblank (isFilled_of_holds hholds)
  · rw [if_neg hblank]
    split
    · rename_i hlogged
      rw [Bool.and_eq_true] at hlogged
      have hlog : fs.SameExcept (fs.ensureLog now file) (fs.LeftBeside now file content) := by
        refine SameExcept.ensureLog fun hfilled => .emptyLog ?_ hfilled
        -- nothing but the database itself calls for a log
        have hmode := hlogged.1
        unfold isLogged at hmode
        simpa [hfilled] using hmode
      exact hlog.trans (SameExcept.renewIndex (.index hlogged.1))
    · exact SameExcept.refl fs _

theorem SameExcept.leave (fs : FileSystem) (now : Instant) (file : Place)
    (content : FileContent) :
    fs.SameExcept (fs.leave now file content) (fs.LeftBeside now file content) := by
  unfold FileSystem.leave
  split
  · exact SameExcept.refl fs _
  · exact SameExcept.leaveIndex fs now file content

end FileSystem

end NodeReport

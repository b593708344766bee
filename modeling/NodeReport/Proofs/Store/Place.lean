import NodeReport.Proofs.Store.Files
import NodeReport.Store.DatabaseFile

/-! # Where a database's file is

  The path of a database goes by names alone, while every other path is followed through the
  directories on its way. A path that can be followed means the same place in both ways.

  * `FileSystem.databasePlace?_of_follow`: the place of a path that can be followed;
  * `Place.beside_inj`: the files beside a database are told apart by their endings.
-/

namespace NodeReport

/-! ### Places beside a place -/

namespace Place

theorem beside_concat (names : List String) (last ending : String) :
    Place.beside (names ++ [last]) ending = names ++ [last ++ ending] := by
  unfold beside
  rw [List.getLast?_concat, List.dropLast_concat]

/-- Endings tell the places beside a place apart. -/
theorem beside_inj {place : Place} {a b : String} (h : place.beside a = place.beside b) :
    a = b := by
  rcases List.eq_nil_or_concat place with rfl | ⟨names, last, rfl⟩
  · exact (List.cons.inj h).1
  · rw [List.concat_eq_append, beside_concat, beside_concat] at h
    have hlast := List.append_cancel_left h
    exact (String.append_right_inj last).mp (List.cons.inj hlast).1

/-- A place beside a place is another one. -/
theorem beside_ne_self {place : Place} {ending : String} (h : ending ≠ "") :
    place.beside ending ≠ place := by
  intro heq
  rcases List.eq_nil_or_concat place with rfl | ⟨names, last, rfl⟩
  · cases heq
  · rw [List.concat_eq_append, beside_concat] at heq
    have hlast := (List.cons.inj (List.append_cancel_left heq)).1
    apply h
    apply (String.append_right_inj last).mp
    rw [hlast, String.append_empty]

end Place

namespace FileSystem

variable {fs : FileSystem} {place : Place} {name path : String}

/-! ### Ways -/

theorem walk_cons (fs : FileSystem) (place : Place) (name : String) (rest : List String) :
    fs.walk place (name :: rest) =
      match fs.at? place with
      | none => .error .notFound
      | some (.file _ _) => .error .notADirectory
      | some .directory =>
        if !fs.allows .read place then .error .denied
        else if Path.nameLimit < name.utf8ByteSize then .error .nameTooLong
        else fs.walk (place.step name) rest :=
  rfl

theorem walk_append (fs : FileSystem) (place : Place) (first rest : List String) :
    fs.walk place (first ++ rest) = (fs.walk place first).bind fun way => fs.walk way rest := by
  induction first generalizing place with
  | nil => rfl
  | cons name first ih =>
    rw [List.cons_append, walk_cons, walk_cons]
    split
    · rfl
    · rfl
    · split
      · rfl
      · split
        · rfl
        · exact ih _

theorem reach_cons (fs : FileSystem) (first : String) (rest : List String) :
    fs.reach (first :: rest) =
      if first = "/" then fs.walk ["/"] rest else fs.walk [] (first :: rest) :=
  rfl

/-- Whether a name can be followed from a place. -/
structure Passes (fs : FileSystem) (place : Place) (name : String) : Prop where
  /-- The place is a directory. -/
  directory : fs.at? place = some .directory
  /-- It may be gone through. -/
  allowed : fs.allows .read place = true
  /-- The name is not too long. -/
  short : name.utf8ByteSize ≤ Path.nameLimit

/-- What the walk along names does at the first. -/
theorem walk_cons_eq_ok {target : Place} {rest : List String}
    (h : fs.walk place (name :: rest) = .ok target) :
    fs.Passes place name ∧ fs.walk (place.step name) rest = .ok target := by
  rw [walk_cons] at h
  split at h
  · cases h
  · cases h
  · rename_i hat
    split at h
    · cases h
    · rename_i hallowed
      split at h
      · cases h
      · rename_i hshort
        exact ⟨⟨hat, by simpa using hallowed, Nat.not_lt.mp hshort⟩, h⟩

/-- One name is followed from a directory. -/
theorem Passes.walk (h : fs.Passes place name) : fs.walk place [name] = .ok (place.step name) := by
  unfold FileSystem.walk
  rw [h.directory]
  dsimp only
  rw [h.allowed, if_neg (by decide), if_neg (Nat.not_lt.mpr h.short)]
  rfl

/-- Whether the names on the way to a place lead to it, and to every place on the way. -/
def IsReached (fs : FileSystem) (place : Place) : Prop :=
  ∀ way, way <+: place → fs.reach way = .ok way

namespace IsReached

theorem start (fs : FileSystem) (path : String) : fs.IsReached (Place.start path) := by
  intro way hway
  unfold Place.start at hway
  split at hway
  · rcases List.prefix_cons_iff.mp hway with rfl | ⟨rest, rfl, hrest⟩
    · rfl
    · rw [List.prefix_nil.mp hrest]
      rfl
  · rw [List.prefix_nil.mp hway]
    rfl

/-- One name further is reached from a directory. -/
theorem concat (h : fs.IsReached place) (hname : fs.Passes place name)
    (hstep : place.step name = place ++ [name]) :
    fs.IsReached (place ++ [name]) := by
  intro way hway
  -- only the whole way is new
  rcases List.prefix_concat_iff.mp hway with rfl | hway
  · have hplace := h place List.prefix_rfl
    have hlast := hname.walk
    rw [hstep] at hlast
    cases place with
    | nil =>
      by_cases htop : name = "/"
      · rw [htop]
        rfl
      · rw [List.nil_append] at hlast ⊢
        rw [reach_cons, if_neg htop]
        exact hlast
    | cons first rest =>
      rw [List.cons_append, reach_cons]
      rw [reach_cons] at hplace
      by_cases htop : first = "/"
      · rw [if_pos htop] at hplace ⊢
        rw [walk_append, hplace]
        exact hlast
      · rw [if_neg htop] at hplace ⊢
        rw [← List.cons_append, walk_append, hplace]
        exact hlast
  · exact h way hway

/-- A step from a directory goes to a place that is reached. -/
theorem step (h : fs.IsReached place) (hname : fs.Passes place name) :
    fs.IsReached (place.step name) := by
  by_cases hstay : name = "."
  · have hstep : place.step name = place := if_pos hstay
    rw [hstep]
    exact h
  · by_cases hback : name = ".."
    · have hstep : place.step name = place.up := by
        unfold Place.step
        rw [if_neg hstay, if_pos hback]
      rw [hstep]
      -- from a place that is above the working directory, going back is one name further
      have hforth : place.up = place ++ [".."] → fs.IsReached place.up := by
        intro hup
        rw [hup]
        rw [hback] at hstep hname
        exact h.concat hname (hstep.trans hup)
      rcases List.eq_nil_or_concat place with rfl | ⟨names, last, rfl⟩
      · exact hforth rfl
      · rw [List.concat_eq_append] at h hforth ⊢
        have hup : Place.up (names ++ [last]) =
            if last = "/" then names ++ [last]
            else if last = ".." then names ++ [last] ++ [".."] else names := by
          unfold Place.up
          rw [List.getLast?_concat]
          dsimp only
          rw [List.dropLast_concat]
        by_cases htop : last = "/"
        · rw [hup, if_pos htop]
          exact h
        · by_cases hagain : last = ".."
          · exact hforth (by rw [hup, if_neg htop, if_pos hagain])
          · -- otherwise the last name is taken off, and what is left was reached on the way
            rw [hup, if_neg htop, if_neg hagain]
            intro way hway
            exact h way (hway.trans (List.prefix_append names [last]))
    · have hstep : place.step name = place ++ [name] := by
        unfold Place.step
        rw [if_neg hstay, if_neg hback]
      rw [hstep]
      exact h.concat hname hstep

end IsReached

/-- Names that can be followed lead to a place that is reached, by places that are not
    impossible. -/
theorem isReached_of_walk {names : List String} {target : Place} (h : fs.IsReached place)
    (hwalk : fs.walk place names = .ok target) :
    fs.IsReached target ∧ names.foldlM (fun place name =>
      let next := place.step name
      if fs.isConceivable next then some next else none) place = some target := by
  induction names generalizing place with
  | nil =>
    cases hwalk
    exact ⟨h, rfl⟩
  | cons name rest ih =>
    obtain ⟨hname, hrest⟩ := walk_cons_eq_ok hwalk
    have hnext := h.step hname
    have hconceivable : fs.isConceivable (place.step name) = true := by
      unfold isConceivable
      rw [hnext _ List.prefix_rfl]
    rw [List.foldlM_cons]
    dsimp only
    rw [if_pos hconceivable]
    exact ih hnext hrest

/-- A path that can be followed leads a database to the same place. -/
theorem databasePlace?_of_follow {target : Place}
    (h : fs.follow path (Path.names path) = .ok target) (hsize : target.size ≤ waySizeLimit) :
    fs.reach target = .ok target ∧ fs.databasePlace? path = some target := by
  have hwalk : fs.walk (Place.start path) (Path.names path) = .ok target := by
    unfold follow at h
    split at h
    · cases h
    · exact h
  obtain ⟨hreached, hnames⟩ := isReached_of_walk (IsReached.start fs path) hwalk
  refine ⟨hreached _ List.prefix_rfl, ?_⟩
  unfold databasePlace?
  rw [hnames]
  show (if target.size ≤ waySizeLimit then some target else none) = some target
  rw [if_pos hsize]

end FileSystem

end NodeReport

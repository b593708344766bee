import NodeReport.Availability
import NodeReport.Proofs.Calendar.Window

/-! # Questions one after another

  Whoever is asked about the places of a grid may keep a state between the questions, and may fail to
  answer one. The questions are asked source after source, and for each source day after day; the
  first one that fails is the last one:

  * `Attempt.outcome_mapM_eq_ok_iff`, `Attempt.Stops.outcome_mapM`, `Attempt.allSucceed_or_stops`:
    attempts one after another all succeed, or stop at the first one that fails;
  * `Attempt.mapM_flatMap`: attempts in rows are made one after another;
  * `Availability.allSucceed_recorded`, `Availability.stops_recorded`: what is written down about the
    questions;
  * `Availability.build_asks_in_turn`: how a grid is filled.
-/

namespace NodeReport

/-- Something that changes a state and may fail. What was done to the state before a failure stays
    done. -/
abbrev Attempt (σ ε α : Type) := ExceptT ε (StateM σ) α

namespace Attempt

variable {σ τ ε α β γ : Type}

/-! ### One attempt -/

/-- What an attempt gives in a state, and the state that it leaves. -/
def outcome (x : Attempt σ ε α) (s : σ) : Except ε α × σ :=
  (ExceptT.run x).run s

theorem outcome_pure (a : α) (s : σ) : outcome (pure a : Attempt σ ε α) s = (.ok a, s) := rfl

/-- What comes after an attempt goes on from its result and from the state that it leaves. -/
theorem outcome_bind (x : Attempt σ ε α) (f : α → Attempt σ ε β) (s : σ) :
    outcome (x >>= f) s = (ExceptT.bindCont f (outcome x s).1).run (outcome x s).2 := rfl

/-- An attempt after one that succeeds starts where this one ends. -/
theorem outcome_bind_of_ok {x : Attempt σ ε α} {s t : σ} {a : α} (h : outcome x s = (.ok a, t))
    (f : α → Attempt σ ε β) : outcome (x >>= f) s = outcome (f a) t := by
  rw [outcome_bind, h]
  rfl

/-- Nothing is attempted after a failure. -/
theorem outcome_bind_of_error {x : Attempt σ ε α} {s t : σ} {e : ε}
    (h : outcome x s = (.error e, t)) (f : α → Attempt σ ε β) :
    outcome (x >>= f) s = (.error e, t) := by
  rw [outcome_bind, h]
  rfl

/-- An attempt succeeds or fails. -/
theorem outcome_cases (x : Attempt σ ε α) (s : σ) :
    (∃ a t, outcome x s = (.ok a, t)) ∨ ∃ e t, outcome x s = (.error e, t) := by
  rcases h : outcome x s with ⟨_ | _, t⟩
  · exact .inr ⟨_, t, rfl⟩
  · exact .inl ⟨_, t, rfl⟩

theorem outcome_map (g : α → β) (x : Attempt σ ε α) (s : σ) :
    outcome (g <$> x) s = ((outcome x s).1.map g, (outcome x s).2) := by
  rw [map_eq_pure_bind]
  rcases outcome_cases x s with ⟨a, t, h⟩ | ⟨e, t, h⟩
  · rw [outcome_bind_of_ok h, h]
    rfl
  · rw [outcome_bind_of_error h, h]
    rfl

/-! ### One attempt after another -/

/-- From a state on, the attempts at some things succeed one after another, with these results and
    this state in the end. -/
inductive AllSucceed (f : α → Attempt σ ε β) : σ → List α → List β → σ → Prop where
  /-- Nothing is attempted. -/
  | nil (s : σ) : AllSucceed f s [] [] s
  /-- The first attempt succeeds, and the others do from there on. -/
  | cons {s mid t : σ} {a : α} {as : List α} {b : β} {bs : List β}
      (hhead : outcome (f a) s = (.ok b, mid)) (htail : AllSucceed f mid as bs t) :
      AllSucceed f s (a :: as) (b :: bs) t

/-- From a state on, the attempts at some things succeed up to one that fails. Together with this one
    they are the attempts that are made; the error is the one of the failure. -/
inductive Stops (f : α → Attempt σ ε β) (s : σ) : List α → List α → ε → σ → Prop where
  /-- What comes after the failure does not matter. -/
  | intro {mid t : σ} {before : List α} {a : α} {bs : List β} {e : ε} (after : List α)
      (hbefore : AllSucceed f s before bs mid) (hfail : outcome (f a) mid = (.error e, t)) :
      Stops f s (before ++ a :: after) (before ++ [a]) e t

variable {f : α → Attempt σ ε β} {s t : σ} {as : List α} {bs : List β}

theorem AllSucceed.length_eq (h : AllSucceed f s as bs t) : bs.length = as.length := by
  induction h with
  | nil s => rfl
  | cons _ _ ih => rw [List.length_cons, List.length_cons, ih]

/-- Each result is that of one of the attempts. -/
theorem AllSucceed.exists_of_mem (h : AllSucceed f s as bs t) {b : β} (hb : b ∈ bs) :
    ∃ a start finish, outcome (f a) start = (.ok b, finish) := by
  induction h with
  | nil s => cases hb
  | cons hhead _ ih =>
    rcases List.mem_cons.mp hb with rfl | hb
    · exact ⟨_, _, _, hhead⟩
    · exact ih hb

/-- Either all attempts succeed, or they stop. -/
theorem allSucceed_or_stops (f : α → Attempt σ ε β) (s : σ) (as : List α) :
    (∃ bs t, AllSucceed f s as bs t) ∨ ∃ made e t, Stops f s as made e t := by
  -- the state is generalized: the others start where the first one ends
  induction as generalizing s with
  | nil => exact .inl ⟨[], s, .nil s⟩
  | cons a as ih =>
    rcases outcome_cases (f a) s with ⟨b, mid, hhead⟩ | ⟨e, t, hhead⟩
    · rcases ih mid with ⟨bs, t, htail⟩ | ⟨made, e, t, ⟨after, hbefore, hfail⟩⟩
      · exact .inl ⟨b :: bs, t, .cons hhead htail⟩
      · exact .inr ⟨_, e, t, .intro after (.cons hhead hbefore) hfail⟩
    · exact .inr ⟨_, e, t, .intro as (.nil s) hhead⟩

theorem AllSucceed.outcome_mapM (h : AllSucceed f s as bs t) :
    outcome (as.mapM f) s = (.ok bs, t) := by
  induction h with
  | nil s => rfl
  | cons hhead _ ih =>
    rw [List.mapM_cons, outcome_bind_of_ok hhead, outcome_bind_of_ok ih, outcome_pure]

/-- After the failure nothing is attempted any more. -/
theorem Stops.outcome_mapM {made : List α} {e : ε} (h : Stops f s as made e t) :
    outcome (as.mapM f) s = (.error e, t) := by
  obtain ⟨after, hbefore, hfail⟩ := h
  -- by the attempts that succeed; the one that fails is met with none of them left
  induction hbefore with
  | nil s => rw [List.nil_append, List.mapM_cons, outcome_bind_of_error hfail]
  | cons hhead _ ih =>
    rw [List.cons_append, List.mapM_cons, outcome_bind_of_ok hhead,
      outcome_bind_of_error (ih hfail)]

theorem outcome_mapM_eq_ok_iff : outcome (as.mapM f) s = (.ok bs, t) ↔ AllSucceed f s as bs t := by
  constructor
  · intro h
    rcases allSucceed_or_stops f s as with ⟨others, finish, hall⟩ | ⟨made, e, finish, hstop⟩
    · rw [hall.outcome_mapM] at h
      cases h
      exact hall
    · rw [hstop.outcome_mapM] at h
      cases h
  · exact AllSucceed.outcome_mapM

/-- Attempts whose results are known beforehand. -/
theorem outcome_mapM_fst {g : α → β} (h : ∀ a s, (outcome (f a) s).1 = .ok (g a)) (as : List α)
    (s : σ) : (outcome (as.mapM f) s).1 = .ok (as.map g) := by
  induction as generalizing s with
  | nil => rfl
  | cons a as ih =>
    have hhead : outcome (f a) s = (.ok (g a), (outcome (f a) s).2) := Prod.ext (h a s) rfl
    have htail : outcome (as.mapM f) (outcome (f a) s).2 =
        (.ok (as.map g), (outcome (as.mapM f) (outcome (f a) s).2).2) := Prod.ext (ih _) rfl
    rw [List.mapM_cons, outcome_bind_of_ok hhead, outcome_bind_of_ok htail, outcome_pure,
      List.map_cons]

/-! ### Rows of attempts -/

/-- Attempts in rows are made one after another, row after row. -/
theorem mapM_flatMap {m : Type → Type} [Monad m] [LawfulMonad m] (f : α → m β) (row : γ → List α)
    (cs : List γ) :
    (cs.flatMap row).mapM f = List.flatten <$> cs.mapM fun c => (row c).mapM f := by
  induction cs with
  | nil => simp
  | cons c cs ih => simp [List.mapM_append, ih]

/-! ### Attempts with a record -/

/-- Attempts that keep a record beside the state have the outcomes of those that do not, one by one
    and one after another. -/
theorem outcome_mapM_of_recorded {f : α → Attempt σ ε β} {f' : α → Attempt (σ × τ) ε β}
    (h : ∀ a s, outcome (f a) s.1 = (outcome (f' a) s).map id Prod.fst) (as : List α) (s : σ × τ) :
    outcome (as.mapM f) s.1 = (outcome (as.mapM f') s).map id Prod.fst := by
  induction as generalizing s with
  | nil => rfl
  | cons a as ih =>
    have hhead := h a s
    rw [List.mapM_cons, List.mapM_cons]
    rcases outcome_cases (f' a) s with ⟨b, mid, hb⟩ | ⟨e, mid, hb⟩
    · rw [hb] at hhead
      rw [outcome_bind_of_ok hb, outcome_bind_of_ok hhead]
      have htail := ih mid
      -- the first one succeeds on both sides, and in states that agree but for the record
      rcases outcome_cases (as.mapM f') mid with ⟨bs, t, hbs⟩ | ⟨e, t, hbs⟩
      · rw [hbs] at htail
        rw [outcome_bind_of_ok hbs, outcome_bind_of_ok htail]
        rfl
      · rw [hbs] at htail
        rw [outcome_bind_of_error hbs, outcome_bind_of_error htail]
        rfl
    · rw [hb] at hhead
      rw [outcome_bind_of_error hb, outcome_bind_of_error hhead]
      rfl

end Attempt

namespace Availability

open Attempt

variable {σ ε : Type}

/-! ### Questions -/

/-- A question about a day and the id of a source. -/
abbrev Question (σ ε : Type) := Day → Int → Attempt σ ε Bool

/-- The question about a place of a grid. -/
def Question.at (question : Question σ ε) (place : Day × Int) : Attempt σ ε Bool :=
  question place.1 place.2

/-- The question, with a record of the places that it was asked about. -/
def Question.recorded (question : Question σ ε) : Question (σ × List (Day × Int)) ε :=
  fun day id => ExceptT.mk fun s =>
    let (answer, t) := outcome (question day id) s.1
    (answer, (t, s.2 ++ [(day, id)]))

/-- The places of a grid: source after source, and for each source day after day. -/
def places (sources : List Source) (days : List Day) : List (Day × Int) :=
  sources.flatMap fun source => days.map fun day => (day, source.id)

theorem length_places (sources : List Source) (days : List Day) :
    (places sources days).length = sources.length * days.length := by
  unfold places
  induction sources with
  | nil => simp
  | cons source sources ih =>
    rw [List.flatMap_cons, List.length_append, List.length_map, ih, List.length_cons,
      Nat.add_one_mul, Nat.add_comm]

theorem outcome_recorded (question : Question σ ε) (place : Day × Int) (s : σ)
    (asked : List (Day × Int)) :
    outcome (question.recorded.at place) (s, asked) =
      ((outcome (question.at place) s).1, ((outcome (question.at place) s).2, asked ++ [place])) :=
  rfl

/-- Questions that are all answered are all written down. -/
theorem allSucceed_recorded {question : Question σ ε} {s t : σ} {further : List (Day × Int)}
    {answers : List Bool} (h : AllSucceed question.at s further answers t)
    (asked : List (Day × Int)) :
    AllSucceed question.recorded.at (s, asked) further answers (t, asked ++ further) := by
  induction h generalizing asked with
  | nil s =>
    rw [List.append_nil]
    exact .nil (s, asked)
  | @cons s mid t place rest answer answers hhead _ ih =>
    have hrecorded := outcome_recorded question place s asked
    rw [hhead] at hrecorded
    have htail := ih (asked ++ [place])
    rw [List.append_assoc, List.singleton_append] at htail
    exact .cons hrecorded htail

/-- Questions up to one that fails are written down, and this one too. -/
theorem stops_recorded {question : Question σ ε} {s t : σ} {all made : List (Day × Int)} {e : ε}
    (h : Stops question.at s all made e t) :
    Stops question.recorded.at (s, []) all made e (t, made) := by
  cases h with
  | @intro mid _ before place answers _ after hbefore hfail =>
    have hrecorded := outcome_recorded question place mid ([] ++ before)
    rw [hfail] at hrecorded
    exact .intro after (allSucceed_recorded hbefore []) hrecorded

/-! ### Filling a grid -/

/-- Filling a grid asks about these places one after another, and it ends with this result and in this
    state. -/
structure Fills (question : Question σ ε) (sources : List Source) (window : DayWindow) (s : σ)
    (asked : List (Day × Int)) (result : Except ε Availability) (t : σ) : Prop where
  /-- The result, and the state afterwards. -/
  outcome_eq : outcome (build sources window question) s = (result, t)
  /-- The places in the record of the questions. -/
  recorded_eq : outcome (build sources window question.recorded) (s, []) = (result, (t, asked))

/-- The answers about a source, day after day. -/
def Question.row (question : Question σ ε) (days : List Day) (source : Source) :
    Attempt σ ε (List Bool) :=
  days.mapM fun day => question day source.id

theorem build_eq (question : Question σ ε) (sources : List Source) (window : DayWindow) :
    build sources window question =
      Availability.mk window.days sources <$> sources.mapM (question.row window.days) := by
  rw [map_eq_pure_bind]
  rfl

/-- Row after row is place after place. -/
theorem mapM_places (question : Question σ ε) (sources : List Source) (days : List Day) :
    (places sources days).mapM question.at = List.flatten <$> sources.mapM (question.row days) := by
  unfold places
  rw [mapM_flatMap]
  simp only [List.mapM_map]
  rfl

/-- The answers, cut into rows. -/
theorem exists_grid {question : Question σ ε} {sources : List Source} {window : DayWindow} {s t : σ}
    {answers : List Bool}
    (h : AllSucceed question.at s (places sources window.days) answers t) :
    ∃ grid, outcome (build sources window question) s = (.ok ⟨window.days, sources, grid⟩, t) ∧
      grid.flatten = answers ∧ grid.length = sources.length ∧
      ∀ row ∈ grid, row.length = window.size := by
  have hflat := h.outcome_mapM
  rw [mapM_places, outcome_map] at hflat
  -- place after place succeeds only if row after row does
  rcases outcome_cases (sources.mapM (question.row window.days)) s with
    ⟨grid, u, hrows⟩ | ⟨e, u, hrows⟩
  · rw [hrows] at hflat
    cases hflat
    have hall := outcome_mapM_eq_ok_iff.mp hrows
    refine ⟨grid, ?_, rfl, hall.length_eq, ?_⟩
    · rw [build_eq, outcome_map, hrows]
      rfl
    · intro row hrow
      obtain ⟨source, start, finish, hrow⟩ := hall.exists_of_mem hrow
      rw [(outcome_mapM_eq_ok_iff.mp hrow).length_eq, window.length_days]
  · rw [hrows] at hflat
    cases hflat

/-- A failure ends the filling of the grid. -/
theorem outcome_build_of_stops {question : Question σ ε} {sources : List Source}
    {window : DayWindow} {s t : σ} {made : List (Day × Int)} {e : ε}
    (h : Stops question.at s (places sources window.days) made e t) :
    outcome (build sources window question) s = (.error e, t) := by
  have hflat := h.outcome_mapM
  rw [mapM_places, outcome_map] at hflat
  rcases outcome_cases (sources.mapM (question.row window.days)) s with
    ⟨grid, u, hrows⟩ | ⟨e, u, hrows⟩
  · rw [hrows] at hflat
    cases hflat
  · rw [hrows] at hflat
    cases hflat
    rw [build_eq, outcome_map, hrows]
    rfl

/-- What is written down changes neither the result nor the state. -/
theorem fills_of_recorded {question : Question σ ε} {sources : List Source} {window : DayWindow}
    {s t : σ} {asked : List (Day × Int)} {result : Except ε Availability}
    (h : outcome (build sources window question.recorded) (s, []) = (result, (t, asked))) :
    Fills question sources window s asked result t where
  outcome_eq := by
    -- the record is left out of each row first, and then of the rows together
    have hrow : ∀ source u, outcome (question.row window.days source) u.1 =
        (outcome (question.recorded.row window.days source) u).map id Prod.fst :=
      fun source u => outcome_mapM_of_recorded (fun _ _ => rfl) window.days u
    have hrows := outcome_mapM_of_recorded hrow sources (s, [])
    rw [build_eq, outcome_map] at h ⊢
    rw [hrows]
    obtain ⟨hresult, hstate⟩ := Prod.mk.inj h
    exact Prod.ext hresult (congrArg Prod.fst hstate)
  recorded_eq := h

/-- However a question is answered, a grid is filled by asking it about each place once, source after
    source and for each source day after day. If all questions are answered, the answers make up
    the grid; the first one that fails is the last one that is asked, and its error is the result. If
    a question is whether a pair is in a set, the grid is that of the set. -/
theorem build_asks_in_turn (question : Question σ ε) (sources : List Source) (window : DayWindow)
    (s : σ) :
    (places sources window.days).length = sources.length * window.size ∧
      window.days.Pairwise (· < ·) ∧
      (∀ answers t, AllSucceed question.at s (places sources window.days) answers t →
        ∃ grid, Fills question sources window s (places sources window.days)
            (.ok ⟨window.days, sources, grid⟩) t ∧
          grid.flatten = answers ∧ grid.length = sources.length ∧
          ∀ row ∈ grid, row.length = window.size) ∧
      (∀ made e t, Stops question.at s (places sources window.days) made e t →
        Fills question sources window s made (.error e) t) ∧
      ((∃ answers t, AllSucceed question.at s (places sources window.days) answers t) ∨
        ∃ made e t, Stops question.at s (places sources window.days) made e t) ∧
      ∀ pairs : List (Int × Day),
        (∀ day id u, (outcome (question day id) u).1 = .ok (pairs.contains (id, day))) →
          (outcome (build sources window question) s).1 = .ok (ofPairs sources window pairs) := by
  refine ⟨?_, window.pairwise_days, ?_, ?_, allSucceed_or_stops _ _ _, ?_⟩
  · rw [length_places, window.length_days]
  · intro answers t h
    obtain ⟨grid, hbuild, hgrid⟩ := exists_grid (allSucceed_recorded h [])
    exact ⟨grid, fills_of_recorded hbuild, hgrid⟩
  · intro made e t h
    exact fills_of_recorded (outcome_build_of_stops (stops_recorded h))
  · intro pairs h
    have hrow : ∀ source u, (outcome (question.row window.days source) u).1 =
        .ok (window.days.map fun day => pairs.contains (source.id, day)) :=
      fun source u => outcome_mapM_fst (fun day v => h day source.id v) window.days u
    rw [build_eq, outcome_map, outcome_mapM_fst hrow]
    rfl

/-! ### Questions that are counted -/

/-- The last day of a year. -/
def yearsEve : Day := ⟨2025, 12, 31, by decide⟩

/-- The first day of the next year. -/
def newYear : Day := ⟨2026, 1, 1, by decide⟩

/-- These two days. -/
def turnOfYear : DayWindow := ⟨yearsEve, newYear⟩

/-- Two sources. -/
def turnSources : List Source := [⟨1, "a.example", 80, "A"⟩, ⟨2, "b.example", 80, "B"⟩]

/-- A report of each source. -/
def turnReports : List (Int × Day) := [(1, yearsEve), (2, newYear)]

/-- Whether a report is among these; each question is counted, and one place may be refused. -/
def countedQuestion (refused : Option (Day × Int)) : Question Nat String := fun day id => do
  modify fun count => count + 1
  if refused = some (day, id) then throw "refused"
  pure (turnReports.contains (id, day))

/-- Four questions that are answered, and three of which the last one is refused. -/
theorem build_asks_in_turn_counted :
    AllSucceed (countedQuestion none).at 0 (places turnSources turnOfYear.days)
        [true, false, false, true] 4 ∧
      (∃ grid, Fills (countedQuestion none) turnSources turnOfYear 0
          (places turnSources turnOfYear.days) (.ok ⟨turnOfYear.days, turnSources, grid⟩) 4 ∧
        grid.flatten = [true, false, false, true] ∧ grid.length = turnSources.length ∧
        ∀ row ∈ grid, row.length = turnOfYear.size) ∧
      Stops (countedQuestion (some (yearsEve, 2))).at 0 (places turnSources turnOfYear.days)
        [(yearsEve, 1), (newYear, 1), (yearsEve, 2)] "refused" 3 ∧
      Fills (countedQuestion (some (yearsEve, 2))) turnSources turnOfYear 0
        [(yearsEve, 1), (newYear, 1), (yearsEve, 2)] (.error "refused") 3 ∧
      (∀ day id u, (outcome (countedQuestion none day id) u).1 =
        .ok (turnReports.contains (id, day))) ∧
      (outcome (build turnSources turnOfYear (countedQuestion none)) 0).1 =
        .ok (ofPairs turnSources turnOfYear turnReports) := by
  have hplaces : places turnSources turnOfYear.days =
      [(yearsEve, 1), (newYear, 1), (yearsEve, 2), (newYear, 2)] := by decide +kernel
  have hall : AllSucceed (countedQuestion none).at 0 (places turnSources turnOfYear.days)
      [true, false, false, true] 4 := by
    rw [hplaces]
    exact .cons rfl (.cons rfl (.cons rfl (.cons rfl (.nil 4))))
  have hstop : Stops (countedQuestion (some (yearsEve, 2))).at 0
      (places turnSources turnOfYear.days) [(yearsEve, 1), (newYear, 1), (yearsEve, 2)]
      "refused" 3 := by
    have hbefore : AllSucceed (countedQuestion (some (yearsEve, 2))).at 0
        [(yearsEve, 1), (newYear, 1)] [true, false] 2 := .cons rfl (.cons rfl (.nil 2))
    rw [hplaces]
    exact .intro _ hbefore rfl
  have hset : ∀ day id u, (outcome (countedQuestion none day id) u).1 =
      .ok (turnReports.contains (id, day)) := fun _ _ _ => rfl
  obtain ⟨-, -, hanswered, -, -, hofPairs⟩ :=
    build_asks_in_turn (countedQuestion none) turnSources turnOfYear 0
  obtain ⟨-, -, -, hstopped, -, -⟩ :=
    build_asks_in_turn (countedQuestion (some (yearsEve, 2))) turnSources turnOfYear 0
  exact ⟨hall, hanswered _ _ hall, hstop, hstopped _ _ _ hstop, hset, hofPairs _ hset⟩

end Availability

end NodeReport

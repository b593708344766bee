import NodeReport.Availability
import NodeReport.Proofs.Calendar.Window
import NodeReport.Proofs.Store.Summary

/-! # Two ways to the grid of reports

  The grid can be filled by a question for each source and day, or by one question for the whole
  window. On a summary whose days have plain years the two grids are the same, and neither way
  fails: a cell of the first is an equality of texts, a cell of the second an interval of texts
  with the texts read back into days.
-/

namespace NodeReport

namespace Availability

/-! ### Answers one after another -/

/-- A monad of answers that may fail, with their notices. -/
abbrev Asking := ExceptT StoreError Noted

/-- Questions that all succeed are answered one after another. -/
theorem value_mapM {α β : Type} {f : α → Asking β} {g : α → β} {as : List α}
    (h : ∀ a ∈ as, (f a).run.value = .ok (g a)) : (as.mapM f).run.value = .ok (as.map g) := by
  induction as with
  | nil => rfl
  | cons a as ih =>
    have hhead := h a (by simp)
    have htail := ih fun b hb => h b (by simp [hb])
    rw [List.mapM_cons, ExceptT.run_bind, Noted.value_bind, hhead]
    simp only
    rw [ExceptT.run_bind, Noted.value_bind, htail]
    rfl

/-- A grid whose cells are all answered. -/
theorem value_build {sources : List Source} {window : DayWindow}
    {reported : Day → Int → Asking Bool} (answer : Day → Int → Bool)
    (h : ∀ source ∈ sources, ∀ day ∈ window.days,
      (reported day source.id).run.value = .ok (answer day source.id)) :
    (build sources window reported).run.value =
      .ok ⟨window.days, sources, sources.map fun s => window.days.map fun d => answer d s.id⟩ := by
  have hrows : ∀ s ∈ sources, ((window.days.mapM fun d => reported d s.id : Asking _)).run.value =
      .ok (window.days.map fun d => answer d s.id) :=
    fun s hs => value_mapM fun d hd => h s hs d hd
  unfold build
  rw [ExceptT.run_bind, Noted.value_bind, value_mapM hrows]
  rfl

/-! ### The two grids -/

/-- Asking a database about each source and day gives the grid of the pairs that it lists for the
    whole window. -/
theorem build_hasReport_eq_ofPairs {db : Database} {t : StoredTable}
    (ht : db.table? (TableKind.storeName .summary) = some t) (hsummary : t.IsSummary)
    (sources : List Source) (window : DayWindow) (hfirst : window.first.HasPlainYear)
    (hlast : window.last.HasPlainYear) :
    ∃ pairs, (db.reportStore.reportDays window.first window.last).value = .ok pairs ∧
      (build sources window fun day source =>
        (ExceptT.mk (db.reportStore.hasReport day source) : Asking Bool)).run.value =
          .ok (ofPairs sources window pairs) := by
  obtain ⟨pairs, hpairs, hmem⟩ := Database.value_reportDays ht hsummary hfirst hlast
  refine ⟨pairs, hpairs, ?_⟩
  have hcell : ∀ source ∈ sources, ∀ day ∈ window.days,
      (ExceptT.mk (db.reportStore.hasReport day source.id) : Asking Bool).run.value =
        .ok (pairs.contains (source.id, day)) := by
    intro source _ day hday
    -- a day of the window lies in the range of the one question, so only the rows decide
    obtain ⟨hlow, hhigh⟩ := DayWindow.mem_days.mp hday
    obtain ⟨answer, hanswer, hiff⟩ := Database.value_hasReport ht hsummary day source.id
    have hsame : answer = pairs.contains (source.id, day) := by
      rw [Bool.eq_iff_iff, hiff, List.contains_iff_mem, hmem]
      constructor
      · intro hrow
        exact ⟨hlow, hhigh, hrow⟩
      · rintro ⟨-, -, hrow⟩
        exact hrow
    rw [← hsame]
    exact hanswer
  exact value_build (fun day source => pairs.contains (source, day)) hcell

/-! ### Summaries of plain reports -/

/-- The summary of reports of which only source and day are known. -/
def summaryOf (reports : List (Int × Day)) : StoredTable where
  shape := Schema.ofKind .summary
  rows := reports.map fun (source, day) =>
    [.ofText day.text, .integer source] ++ List.replicate 7 .null

/-- Days are texts and sources integers, which is how the columns of a summary hold them. -/
theorem isConverted_summaryOf (reports : List (Int × Day)) : (summaryOf reports).IsConverted := by
  apply StoredTable.isConverted_of_converted
  intro row hrow
  obtain ⟨⟨source, day⟩, -, rfl⟩ := List.mem_map.mp hrow
  show Affinity.numeric.apply (.ofText day.text) :: _ = _
  rw [StoredValue.apply_text]
  rfl

theorem isSummary_summaryOf {reports : List (Int × Day)}
    (h : ∀ r ∈ reports, r.2.HasPlainYear) : (summaryOf reports).IsSummary where
  distinct := show (Schema.ofKind .summary).HasDistinctNames by decide
  hasDay := show (Schema.ofKind .summary).HasColumn _ by decide
  hasSource := show (Schema.ofKind .summary).HasColumn _ by decide
  isConverted := isConverted_summaryOf reports
  reports := by
    intro row hrow
    obtain ⟨⟨source, day⟩, hmem, rfl⟩ := List.mem_map.mp hrow
    exact ⟨source, day, h _ hmem, rfl, rfl⟩

/-- Reports of two sources, on a leap day and on the day after it. -/
def leapReports : List (Int × Day) :=
  [(1, ⟨2024, 2, 29, by decide⟩), (2, ⟨2024, 3, 1, by decide⟩)]

/-- A window around a leap day. -/
def leapWindow : DayWindow := ⟨⟨2024, 2, 28, by decide⟩, ⟨2024, 3, 2, by decide⟩⟩

/-- A store with only these reports. -/
def leapStore : Database := ⟨[summaryOf leapReports]⟩

/-- Sources, the last of which never reports. -/
def leapSources : List Source :=
  [⟨1, "a.example", 80, "A"⟩, ⟨2, "b.example", 80, "B"⟩, ⟨3, "c.example", 80, "C"⟩]

/-- The two grids around a leap day. -/
theorem build_eq_ofPairs_leapWindow :
    leapStore.table? (TableKind.storeName .summary) = some (summaryOf leapReports) ∧
      (summaryOf leapReports).IsSummary ∧ leapWindow.first.HasPlainYear ∧
      leapWindow.last.HasPlainYear ∧
      ∃ pairs, (leapStore.reportStore.reportDays leapWindow.first leapWindow.last).value =
          .ok pairs ∧
        (build leapSources leapWindow fun day source =>
          (ExceptT.mk (leapStore.reportStore.hasReport day source) : Asking Bool)).run.value =
            .ok (ofPairs leapSources leapWindow pairs) := by
  have htable : leapStore.table? (TableKind.storeName .summary) = some (summaryOf leapReports) := by
    rfl
  have hsummary : (summaryOf leapReports).IsSummary := by
    apply isSummary_summaryOf
    intro r hr
    have hcases : r = (1, ⟨2024, 2, 29, by decide⟩) ∨ r = (2, ⟨2024, 3, 1, by decide⟩) := by
      simpa [leapReports] using hr
    rcases hcases with rfl | rfl
    · exact ⟨by decide, by decide⟩
    · exact ⟨by decide, by decide⟩
  have hfirst : leapWindow.first.HasPlainYear := ⟨by decide, by decide⟩
  have hlast : leapWindow.last.HasPlainYear := ⟨by decide, by decide⟩
  exact ⟨htable, hsummary, hfirst, hlast,
    build_hasReport_eq_ofPairs htable hsummary leapSources leapWindow hfirst hlast⟩

end Availability

end NodeReport

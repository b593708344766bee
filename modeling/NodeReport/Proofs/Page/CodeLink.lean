import NodeReport.Proofs.Page.Link
import NodeReport.Proofs.Page.Network

/-! # Links of networks

  The totals of all networks link each network to its page. The code of a network is any text that was
  stored; it is written into the gap of a template, in the form of a value in a query. Whatever the
  text is, the link has the two parameters of the template, and the text is read back from it:

  * `queryParameters_codeTarget`, `not_mem_codeTarget`: what the link says;
  * `codeTarget_inj`: different networks have different links;
  * `Report.codeLink_networksSection`: where the template is used;
  * `Report.code_links_keep_codes`: these together.
-/

namespace NodeReport

/-! ### Links -/

/-- A link has the code and the day for its parameters, and no others. -/
theorem queryParameters_codeTarget (code : String) (d : Day) :
    Text.queryParameters (codeTarget (networkTemplate d) code).toList =
      [("code".toList, (Text.formEncode code).toList), ("date".toList, d.chars)] := by
  rw [codeTarget_networkTemplate]
  exact Link.queryParameters_networkTarget (fun _ hc => Text.isQueryChar_of_mem_formEncode hc) d

/-- A link has no fragment. -/
theorem not_mem_codeTarget (code : String) (d : Day) :
    '#' ∉ (codeTarget (networkTemplate d) code).toList := by
  have hcode : '#' ∉ (Text.formEncode code).toList := fun hmem =>
    (Link.ne_separator_of_isQueryChar (Text.isQueryChar_of_mem_formEncode hmem)).2 rfl
  have hday : '#' ∉ d.chars := by
    intro hmem
    rcases Day.mem_chars hmem with h | h | h <;> exact absurd h (by decide)
  rw [codeTarget_networkTemplate]
  unfold networkTarget Day.text
  simp only [String.toList_append, String.toList_ofList, List.mem_append, not_or]
  exact ⟨⟨⟨⟨by decide, by decide⟩, hcode⟩, by decide⟩, hday⟩

/-- Links are the same only for the same code and the same day. -/
theorem codeTarget_inj {code other : String} {d e : Day} :
    codeTarget (networkTemplate d) code = codeTarget (networkTemplate e) other ↔
      code = other ∧ d = e := by
  constructor
  · intro h
    -- both are read off the parameters
    have hparameters := queryParameters_codeTarget code d
    rw [h, queryParameters_codeTarget] at hparameters
    simp only [List.cons.injEq, Prod.mk.injEq, true_and, and_true] at hparameters
    obtain ⟨hcode, hday⟩ := hparameters
    constructor
    · exact (Text.formEncode_inj.mp (String.toList_inj.mp hcode)).symm
    · refine Day.text_inj.mp ?_
      unfold Day.text
      rw [hday]
  · rintro ⟨rfl, rfl⟩
    rfl

namespace Report

/-! ### Where networks are linked -/

/-- The totals link codes by the template of their month, if there are rows at all. -/
theorem codeLink_networksSection (store : ReportStore) (date : Day) (template : String) :
    (networksSection store date).options.codeLink = some template ↔
      (networksSection store date).error = none ∧ template = networkTemplate date := by
  unfold networksSection
  cases (networkTotals (store.fetchRows .network (monthFilter date)
      [RowFilter.networkColumn])).value with
  | ok rows =>
    show some (networkTemplate date) = some template ↔ none = none ∧ template = networkTemplate date
    constructor
    · intro h
      exact ⟨rfl, (Option.some.inj h).symm⟩
    · rintro ⟨-, rfl⟩
      rfl
  | error e =>
    show none = some template ↔ some e.message = none ∧ template = networkTemplate date
    simp

theorem codeLink_requestsSection (store : ReportStore) (code : String) (date : Day) :
    (requestsSection store code date).options.codeLink = none := by
  unfold requestsSection
  cases (store.fetchRows .network { monthFilter date with network := some code }
      [TableKind.dayColumn, Table.sourceColumn]).value with
  | ok rows => rfl
  | error e => rfl

/-- On the page of a network the totals link every code by one template. Whatever the code is, the
    link is made of the code in the form of a value and of the day, it has no further parameter
    and no fragment, the bytes of the code are read back from it, and no other code has it. -/
theorem code_links_keep_codes (store : ReportStore) (today : Day) (shown : String) (date : Day)
    (updated : Option String) (code : String) :
    (∃ requests totals,
        (network store today shown date updated).value.sections = [requests, totals] ∧
          requests.options.codeLink = none ∧
          ∀ template, totals.options.codeLink = some template ↔
            totals.error = none ∧ template = networkTemplate date) ∧
      codeTarget (networkTemplate date) code =
        "reqlognetwork?code=" ++ Text.formEncode code ++ "&date=" ++ date.text ∧
      (∀ c ∈ (Text.formEncode code).toList, Text.IsQueryChar c) ∧
      Text.formBytes (Text.formEncode code).toList = Text.utf8 code ∧
      Text.queryParameters (codeTarget (networkTemplate date) code).toList =
        [("code".toList, (Text.formEncode code).toList), ("date".toList, date.chars)] ∧
      '#' ∉ (codeTarget (networkTemplate date) code).toList ∧
      ∀ other day, codeTarget (networkTemplate date) code = codeTarget (networkTemplate day) other ↔
        code = other ∧ date = day := by
  refine ⟨⟨_, _, sections_network store today shown date updated,
    codeLink_requestsSection store shown date, codeLink_networksSection store date⟩, ?_,
    fun c hc => Text.isQueryChar_of_mem_formEncode hc, Text.formBytes_formEncode code,
    queryParameters_codeTarget code date, not_mem_codeTarget code date,
    fun _ _ => codeTarget_inj⟩
  rw [codeTarget_networkTemplate]
  rfl

/-- A code with a gap of its own, with separators and with a letter outside of ASCII. -/
def hostileCode : String := "\x7bcode\x7d &date=#+%ä"

/-- A link to the network with this code, on a leap day. -/
theorem code_links_keep_codes_hostileCode :
    codeTarget (networkTemplate ⟨2024, 2, 29, by decide⟩) hostileCode =
        "reqlognetwork?code=%7Bcode%7D+%26date%3D%23%2B%25%C3%A4&date=2024-02-29" ∧
      '%' ∈ (Text.formEncode hostileCode).toList ∧ Text.IsQueryChar '%' := by
  obtain ⟨-, hlink, hchars, -⟩ := code_links_keep_codes (Database.mk []).reportStore
    ⟨2024, 3, 1, by decide⟩ "GE" ⟨2024, 2, 29, by decide⟩ none hostileCode
  have hmem : '%' ∈ (Text.formEncode hostileCode).toList := by decide +kernel
  refine ⟨?_, hmem, hchars '%' hmem⟩
  rw [hlink]
  decide +kernel

end Report

end NodeReport

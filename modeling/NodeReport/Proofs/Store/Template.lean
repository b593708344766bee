import NodeReport.Proofs.Text.Scanner
import NodeReport.Store.Select

/-! # Statements read back

  A reader of statements that knows nothing of the selection that a statement was written for. It
  splits the characters into keywords, names between their marks and signs, and reads from these a
  template: a selection with a gap for every bound value. A statement of all columns is read as the
  template of its selection (`read?_text`), and the bound values, put into the gaps in order, give
  the selection back (`bind?_template`).
-/

namespace NodeReport

/-! ### Tokens -/

/-- A word that is not a name. -/
inductive Keyword where
  /-- Before what is given. -/
  | select
  /-- Before the table. -/
  | table
  /-- Before the conditions. -/
  | condition
  /-- Between two conditions. -/
  | both
  /-- Before the order, together with the next one. -/
  | order
  /-- Before the columns of the order. -/
  | along
deriving DecidableEq

namespace Keyword

/-- All keywords. -/
def all : List Keyword := [.select, .table, .condition, .both, .order, .along]

/-- The letters of a keyword. -/
def word : Keyword → List Char
  | .select => "SELECT".toList
  | .table => "FROM".toList
  | .condition => "WHERE".toList
  | .both => "AND".toList
  | .order => "ORDER".toList
  | .along => "BY".toList

/-- The keyword with these letters. -/
def ofWord? (cs : List Char) : Option Keyword :=
  all.find? fun k => k.word == cs

end Keyword

/-- A piece of a statement. -/
inductive StatementToken where
  /-- A keyword. -/
  | keyword (k : Keyword)
  /-- A name between marks. -/
  | name (s : String)
  /-- A sign of comparison. -/
  | comparison (c : Comparison)
  /-- The star, for every column. -/
  | star
  /-- The comma between names. -/
  | comma
  /-- The question mark, for a bound value. -/
  | gap
deriving DecidableEq

/-- Where a reader of a statement stands, with what it has read of the piece that it is in. -/
inductive StatementPlace where
  /-- Between two pieces. -/
  | between
  /-- In a keyword. -/
  | word (cs : List Char)
  /-- In a name. -/
  | name (cs : List Char)
  /-- In a sign of comparison, before the sign of equality. -/
  | bound (c : Comparison)

namespace StatementPlace

/-- What a character completes, and where it leads. -/
def step : StatementPlace → Char → Option (List StatementToken × StatementPlace)
  | between, c =>
    if c = ' ' then some ([], between)
    else if c = '`' then some ([], name [])
    else if c = '*' then some ([.star], between)
    else if c = ',' then some ([.comma], between)
    else if c = '?' then some ([.gap], between)
    else if c = '=' then some ([.comparison .equal], between)
    else if c = '>' then some ([], bound .atLeast)
    else if c = '<' then some ([], bound .atMost)
    else if c.isAlpha then some ([], word [c])
    else none
  | word cs, c =>
    if c = ' ' then (Keyword.ofWord? cs).map fun k => ([.keyword k], between)
    else if c.isAlpha then some ([], word (cs ++ [c]))
    else none
  | name cs, c =>
    -- only the mark ends a name; a sign or a keyword in it is a part of it
    if c = '`' then some ([.name (String.ofList cs)], between)
    else some ([], name (cs ++ [c]))
  | bound comparison, c =>
    if c = '=' then some ([.comparison comparison], between) else none

end StatementPlace

/-- The scanner of statements, which end behind a name, a sign or a gap. -/
def statementScanner : Text.Scanner StatementPlace StatementToken where
  step := StatementPlace.step
  finish
    | .between => some []
    | _ => none

open Text.Scanner (steps_append steps_gather)

/-- The tokens of a statement. -/
def statementTokens? (s : String) : Option (List StatementToken) :=
  statementScanner.scan .between s.toList

/-! ### Templates -/

/-- A selection of all columns with a gap for every bound value. -/
structure SelectTemplate where
  /-- The table. -/
  table : String
  /-- Which column is compared with each gap, and how. -/
  comparisons : List (String × Comparison)
  /-- The columns by which the rows are ordered. -/
  order : List String
deriving DecidableEq

namespace SelectTemplate

/-- The selection with values in the gaps, of which there have to be as many. -/
def bind? (t : SelectTemplate) (values : List StoredValue) : Option Selection :=
  if values.length = t.comparisons.length then
    some {
      projection := .everything
      table := t.table
      conditions := t.comparisons.zipWith (fun (c, comparison) v => ⟨c, comparison, v⟩) values
      order := t.order }
  else none

/-- Names with commas between them, up to the end. -/
def readNames : List StatementToken → Option (List String)
  | [.name n] => some [n]
  | .name n :: .comma :: rest => (readNames rest).map (n :: ·)
  | _ => none

/-- The order, if there is one, up to the end. -/
def readOrder : List StatementToken → Option (List String)
  | [] => some []
  | .keyword .order :: .keyword .along :: rest => readNames rest
  | _ => none

/-- Comparisons of columns with gaps, and the tokens behind them. -/
def readComparisons :
    List StatementToken → Option (List (String × Comparison) × List StatementToken)
  | .name n :: .comparison c :: .gap :: .keyword .both :: rest =>
    (readComparisons rest).map fun (cs, behind) => ((n, c) :: cs, behind)
  | .name n :: .comparison c :: .gap :: rest => some ([(n, c)], rest)
  | _ => none

/-- The template that tokens make. -/
def ofTokens? : List StatementToken → Option SelectTemplate
  | .keyword .select :: .star :: .keyword .table :: .name table :: .keyword .condition :: rest =>
    (readComparisons rest).bind fun (comparisons, behind) =>
      (readOrder behind).map fun order => ⟨table, comparisons, order⟩
  | .keyword .select :: .star :: .keyword .table :: .name table :: rest =>
    (readOrder rest).map fun order => ⟨table, [], order⟩
  | _ => none

/-- The template that a statement is read as. -/
def read? (s : String) : Option SelectTemplate :=
  (statementTokens? s).bind ofTokens?

end SelectTemplate

namespace Selection

/-! ### Tokens of a selection -/

/-- The tokens of names with commas between them. -/
def nameTokens (names : List String) : List StatementToken :=
  [.comma].intercalate (names.map fun n => [.name n])

/-- The tokens of a condition. -/
def conditionTokens (c : Condition) : List StatementToken :=
  [.name c.column, .comparison c.comparison, .gap]

/-- The tokens of conditions that all have to be satisfied. -/
def conditionsTokens (conditions : List Condition) : List StatementToken :=
  [.keyword .both].intercalate (conditions.map conditionTokens)

/-- The tokens of the conditions with their keyword, if there are any. -/
def whereTokens (conditions : List Condition) : List StatementToken :=
  if conditions.isEmpty then [] else .keyword .condition :: conditionsTokens conditions

/-- The tokens of the order with its keywords, if there is one. -/
def orderTokens (order : List String) : List StatementToken :=
  if order.isEmpty then [] else .keyword .order :: .keyword .along :: nameTokens order

/-- The tokens of a selection of all columns. -/
def tokens (s : Selection) : List StatementToken :=
  .keyword .select :: .star :: .keyword .table :: .name s.table ::
    (whereTokens s.conditions ++ orderTokens s.order)

/-- A name that can be told from what follows it. -/
def IsQuotable (name : String) : Prop :=
  '`' ∉ name.toList

instance (name : String) : Decidable (IsQuotable name) :=
  inferInstanceAs (Decidable (_ ∉ _))

/-- The names in a selection can be told from what follows them. -/
structure HasQuotableNames (s : Selection) : Prop where
  table : IsQuotable s.table
  conditions : ∀ c ∈ s.conditions, IsQuotable c.column
  order : ∀ c ∈ s.order, IsQuotable c

/-! ### Characters to tokens -/

/-- Everything between two marks is the name. -/
theorem steps_quoteName {n : String} (h : IsQuotable n) :
    statementScanner.steps .between (quoteName n).toList = some ([.name n], .between) := by
  have hopen : statementScanner.steps .between ['`'] = some ([], .name []) := rfl
  have hname : statementScanner.steps (.name []) n.toList = some ([], .name ([] ++ n.toList)) := by
    refine steps_gather StatementPlace.name ?_ []
    intro read c hc
    have hne : c ≠ '`' := by
      rintro rfl
      exact h hc
    exact if_neg hne
  have hclose : statementScanner.steps (.name n.toList) ['`'] = some ([.name n], .between) := by
    show some ([StatementToken.name (String.ofList n.toList)] ++ [], _) = _
    rw [String.ofList_toList]
    rfl
  have hchars : (quoteName n).toList = ['`'] ++ (n.toList ++ ['`']) := by
    simp [quoteName]
  rw [hchars]
  exact steps_append hopen (steps_append hname hclose)

theorem steps_nameList {names : List String} (hne : names ≠ [])
    (h : ∀ n ∈ names, IsQuotable n) :
    statementScanner.steps .between (nameList names).toList = some (nameTokens names, .between) := by
  induction names with
  | nil => exact absurd rfl hne
  | cons n names ih =>
    have hname := steps_quoteName (h n List.mem_cons_self)
    -- a comma stands behind every name but the last
    cases names with
    | nil =>
      simp only [nameList, nameTokens, List.map_cons, List.map_nil, String.intercalate_singleton,
        List.intercalate_singleton]
      exact hname
    | cons m names =>
      have hrest := ih (List.cons_ne_nil _ _) fun k hk => h k (List.mem_cons_of_mem _ hk)
      have hcomma : statementScanner.steps .between ", ".toList = some ([.comma], .between) := rfl
      simp only [nameList, nameTokens, List.map_cons, String.intercalate_cons_cons,
        List.intercalate_cons_cons, String.toList_append] at hrest ⊢
      exact steps_append (steps_append hname hcomma) hrest

theorem steps_conditionText {c : Condition} (h : IsQuotable c.column) :
    statementScanner.steps .between (conditionText c).toList = some (conditionTokens c, .between) := by
  have hsign : statementScanner.steps .between (" " ++ c.comparison.sign ++ " ?").toList =
      some ([.comparison c.comparison, .gap], .between) := by
    cases c.comparison <;> rfl
  have hchars : (conditionText c).toList =
      (quoteName c.column).toList ++ (" " ++ c.comparison.sign ++ " ?").toList := by
    simp [conditionText]
  rw [hchars]
  exact steps_append (steps_quoteName h) hsign

theorem steps_conditions {conditions : List Condition} (hne : conditions ≠ [])
    (h : ∀ c ∈ conditions, IsQuotable c.column) :
    statementScanner.steps .between (" AND ".intercalate (conditions.map conditionText)).toList =
      some (conditionsTokens conditions, .between) := by
  induction conditions with
  | nil => exact absurd rfl hne
  | cons c conditions ih =>
    have hfirst := steps_conditionText (h c List.mem_cons_self)
    -- a keyword stands behind every condition but the last
    cases conditions with
    | nil =>
      simp only [conditionsTokens, List.map_cons, List.map_nil, String.intercalate_singleton,
        List.intercalate_singleton]
      exact hfirst
    | cons d conditions =>
      have hrest := ih (List.cons_ne_nil _ _) fun k hk => h k (List.mem_cons_of_mem _ hk)
      have hand : statementScanner.steps .between " AND ".toList =
          some ([.keyword .both], .between) := rfl
      simp only [conditionsTokens, List.map_cons, String.intercalate_cons_cons,
        List.intercalate_cons_cons, String.toList_append] at hrest ⊢
      exact steps_append (steps_append hfirst hand) hrest

/-- A statement of all columns is split into the tokens of its selection. -/
theorem statementTokens?_text {s : Selection} (heverything : s.projection = .everything)
    (h : s.HasQuotableNames) : statementTokens? s.text = some s.tokens := by
  have hselect : statementScanner.steps .between "SELECT * FROM ".toList =
      some ([.keyword .select, .star, .keyword .table], .between) := rfl
  -- the last two parts are only there if they have something in them
  have hwhere : statementScanner.steps .between (if s.conditions.isEmpty then ""
      else " WHERE " ++ " AND ".intercalate (s.conditions.map conditionText)).toList =
      some (whereTokens s.conditions, .between) := by
    unfold whereTokens
    cases hempty : s.conditions.isEmpty with
    | true => rfl
    | false =>
      have hkeyword : statementScanner.steps .between " WHERE ".toList =
          some ([.keyword .condition], .between) := rfl
      have hconditions := steps_conditions (List.isEmpty_eq_false_iff.mp hempty) h.conditions
      simp only [Bool.false_eq_true, if_false, String.toList_append]
      exact steps_append hkeyword hconditions
  have horder : statementScanner.steps .between (if s.order.isEmpty then ""
      else " ORDER BY " ++ nameList s.order).toList = some (orderTokens s.order, .between) := by
    unfold orderTokens
    cases hempty : s.order.isEmpty with
    | true => rfl
    | false =>
      have hkeywords : statementScanner.steps .between " ORDER BY ".toList =
          some ([.keyword .order, .keyword .along], .between) := rfl
      have hnames := steps_nameList (List.isEmpty_eq_false_iff.mp hempty) h.order
      simp only [Bool.false_eq_true, if_false, String.toList_append]
      exact steps_append hkeywords hnames
  have htext : s.text.toList = "SELECT * FROM ".toList ++ (quoteName s.table).toList
      ++ (if s.conditions.isEmpty then ""
        else " WHERE " ++ " AND ".intercalate (s.conditions.map conditionText)).toList
      ++ (if s.order.isEmpty then "" else " ORDER BY " ++ nameList s.order).toList := by
    unfold text
    rw [heverything, String.toList_append, String.toList_append, String.toList_append]
    rfl
  have hall := steps_append (steps_append (steps_append hselect (steps_quoteName h.table)) hwhere)
    horder
  unfold statementTokens?
  rw [htext, Text.Scanner.scan_eq_of_steps hall]
  simp [statementScanner, tokens]

/-! ### Tokens to a template -/

/-- A selection with a gap in place of every value. -/
def template (s : Selection) : SelectTemplate where
  table := s.table
  comparisons := s.conditions.map fun c => (c.column, c.comparison)
  order := s.order

theorem readNames_nameTokens {names : List String} (hne : names ≠ []) :
    SelectTemplate.readNames (nameTokens names) = some names := by
  induction names with
  | nil => exact absurd rfl hne
  | cons n names ih =>
    cases names with
    | nil => rfl
    | cons m names =>
      have hrest := ih (List.cons_ne_nil _ _)
      show (SelectTemplate.readNames (nameTokens (m :: names))).map (n :: ·) = _
      rw [hrest]
      rfl

theorem readOrder_orderTokens (order : List String) :
    SelectTemplate.readOrder (orderTokens order) = some order := by
  cases order with
  | nil => rfl
  | cons n names => exact readNames_nameTokens (List.cons_ne_nil _ _)

/-- The comparisons end where the order or the statement does. -/
theorem readComparisons_conditionsTokens {conditions : List Condition} (hne : conditions ≠ [])
    (order : List String) :
    SelectTemplate.readComparisons (conditionsTokens conditions ++ orderTokens order) =
      some (conditions.map fun c => (c.column, c.comparison), orderTokens order) := by
  induction conditions with
  | nil => exact absurd rfl hne
  | cons c conditions ih =>
    cases conditions with
    | nil =>
      -- what follows the last condition is no further one
      cases order <;> rfl
    | cons d conditions =>
      have hrest := ih (List.cons_ne_nil _ _)
      show (SelectTemplate.readComparisons
        (conditionsTokens (d :: conditions) ++ orderTokens order)).map _ = _
      rw [hrest]
      rfl

theorem ofTokens?_tokens (s : Selection) :
    SelectTemplate.ofTokens? s.tokens = some s.template := by
  unfold tokens template
  cases hconditions : s.conditions with
  | nil =>
    have hread := readOrder_orderTokens s.order
    cases horder : s.order with
    | nil => rfl
    | cons n names =>
      rw [horder] at hread
      show (SelectTemplate.readOrder (orderTokens (n :: names))).map _ = _
      rw [hread]
      rfl
  | cons c conditions =>
    show (SelectTemplate.readComparisons
      (conditionsTokens (c :: conditions) ++ orderTokens s.order)).bind _ = _
    rw [readComparisons_conditionsTokens (List.cons_ne_nil _ _), Option.bind_some]
    show (SelectTemplate.readOrder (orderTokens s.order)).map _ = _
    rw [readOrder_orderTokens]
    rfl

/-! ### Round trip -/

/-- A statement of all columns is read as the template of its selection. -/
theorem read?_text {s : Selection} (heverything : s.projection = .everything)
    (h : s.HasQuotableNames) : SelectTemplate.read? s.text = some s.template := by
  unfold SelectTemplate.read?
  rw [statementTokens?_text heverything h, Option.bind_some, ofTokens?_tokens]

/-- The values of a selection fill the gaps of its template. -/
theorem bind?_template {s : Selection} (heverything : s.projection = .everything) :
    s.template.bind? (s.conditions.map Condition.value) = some s := by
  have hconditions : ∀ conditions : List Condition,
      (conditions.map fun c => (c.column, c.comparison)).zipWith
        (fun (c, comparison) v => (⟨c, comparison, v⟩ : Condition))
        (conditions.map Condition.value) = conditions := by
    intro conditions
    induction conditions with
    | nil => rfl
    | cons c conditions ih => rw [List.map_cons, List.map_cons, List.zipWith_cons_cons, ih]
  unfold SelectTemplate.bind? template
  rw [if_pos (by simp), hconditions, ← heverything]

end Selection

end NodeReport

/-! # Scanners

  A scanner splits characters into tokens. It meets one character after another, and all that it
  remembers of those before is the place that it stands at. So a text that is written piece by piece
  is scanned piece by piece (`Scanner.steps_append`).
-/

namespace NodeReport.Text

/-- What a reader does with one character, and at the end of the characters. -/
structure Scanner (Place Token : Type) where
  /-- What a character completes, and where it leads. -/
  step : Place → Char → Option (List Token × Place)
  /-- What the end of the characters completes. -/
  finish : Place → Option (List Token)

namespace Scanner

variable {Place Token : Type} (m : Scanner Place Token)

/-- What characters complete, and where they lead. -/
def steps : Place → List Char → Option (List Token × Place)
  | place, [] => some ([], place)
  | place, c :: rest =>
    (m.step place c).bind fun (tokens, next) =>
      (steps next rest).map fun (more, last) => (tokens ++ more, last)

/-- The tokens of characters up to their end. -/
def scan : Place → List Char → Option (List Token)
  | place, [] => m.finish place
  | place, c :: rest =>
    (m.step place c).bind fun (tokens, next) => (scan next rest).map (tokens ++ ·)

variable {m} {place mid last : Place} {tokens more : List Token}

theorem steps_cons {c : Char} {rest : List Char} (hstep : m.step place c = some (tokens, mid))
    (hrest : m.steps mid rest = some (more, last)) :
    m.steps place (c :: rest) = some (tokens ++ more, last) := by
  rw [steps, hstep, Option.bind_some]
  show (m.steps mid rest).map _ = _
  rw [hrest]
  rfl

/-- What is read piece by piece is read as a whole. -/
theorem steps_append {as bs : List Char} (has : m.steps place as = some (tokens, mid))
    (hbs : m.steps mid bs = some (more, last)) :
    m.steps place (as ++ bs) = some (tokens ++ more, last) := by
  induction as generalizing place tokens with
  | nil =>
    cases has
    exact hbs
  | cons c as ih =>
    obtain ⟨⟨first, next⟩, hstep, hrest⟩ := Option.bind_eq_some_iff.mp has
    obtain ⟨⟨others, end'⟩, hothers, heq⟩ := Option.map_eq_some_iff.mp hrest
    cases heq
    rw [List.cons_append, List.append_assoc]
    exact steps_cons hstep (ih hothers)

/-- Characters that only make a piece longer are gathered. -/
theorem steps_gather (f : List Char → Place) {cs : List Char}
    (h : ∀ read, ∀ c ∈ cs, m.step (f read) c = some ([], f (read ++ [c]))) (read : List Char) :
    m.steps (f read) cs = some ([], f (read ++ cs)) := by
  induction cs generalizing read with
  | nil => rw [steps, List.append_nil]
  | cons c cs ih =>
    have hrest := ih (fun read d hd => h read d (List.mem_cons_of_mem _ hd)) (read ++ [c])
    rw [List.append_assoc] at hrest
    exact steps_cons (h read c List.mem_cons_self) hrest

/-- Characters in front of others add their tokens. -/
theorem scan_append {as : List Char} (has : m.steps place as = some (tokens, mid))
    (rest : List Char) : m.scan place (as ++ rest) = (m.scan mid rest).map (tokens ++ ·) := by
  induction as generalizing place tokens with
  | nil =>
    cases has
    simp
  | cons c as ih =>
    obtain ⟨⟨first, next⟩, hstep, hrest⟩ := Option.bind_eq_some_iff.mp has
    obtain ⟨⟨others, end'⟩, hothers, heq⟩ := Option.map_eq_some_iff.mp hrest
    cases heq
    rw [List.cons_append, scan, hstep, Option.bind_some]
    show (m.scan next (as ++ rest)).map _ = _
    rw [ih hothers, Option.map_map]
    simp [Function.comp_def]

/-- Characters that are scanned to their end. -/
theorem scan_eq_of_steps {cs : List Char} (h : m.steps place cs = some (tokens, last)) :
    m.scan place cs = (m.finish last).map (tokens ++ ·) := by
  have happend := scan_append h []
  rw [List.append_nil] at happend
  exact happend

end Scanner

end NodeReport.Text

import NodeReport.Proofs.Text.Scanner
import NodeReport.Text.Markup

/-! # Markup read back

  A reader of markup that knows nothing of how it was written: it splits characters into tags, with
  attribute values between double quotes, and the text runs between them, and takes the entities
  out of runs and values. It gives every list of tokens back (`readMarkup_render`), up to the
  borders between neighbouring texts, which markup does not show.
-/

namespace NodeReport.Text

/-! ### Entities -/

/-- The text that is written with entities. An ampersand that starts no known entity stands for
    nothing. -/
def unescape? : List Char → Option (List Char)
  | [] => some []
  | '&' :: 'a' :: 'm' :: 'p' :: ';' :: rest => (unescape? rest).map ('&' :: ·)
  | '&' :: 'l' :: 't' :: ';' :: rest => (unescape? rest).map ('<' :: ·)
  | '&' :: 'g' :: 't' :: ';' :: rest => (unescape? rest).map ('>' :: ·)
  | '&' :: 'q' :: 'u' :: 'o' :: 't' :: ';' :: rest => (unescape? rest).map ('"' :: ·)
  | '&' :: 'n' :: 'b' :: 's' :: 'p' :: ';' :: rest => (unescape? rest).map ('\u00A0' :: ·)
  | c :: rest => if c = '&' then none else (unescape? rest).map (c :: ·)

theorem unescape?_cons {c : Char} (h : c ≠ '&') (rest : List Char) :
    unescape? (c :: rest) = (unescape? rest).map (c :: ·) := by
  rw [unescape?]
  · rw [if_neg h]
  all_goals
    intro _ hc _
    exact h hc

/-- A text that can be read is read in front of any other. -/
theorem unescape?_append {cs s : List Char} (h : unescape? cs = some s) (rest : List Char) :
    unescape? (cs ++ rest) = (unescape? rest).map (s ++ ·) := by
  induction cs using unescape?.induct generalizing s with
  | case1 =>
    cases h
    simp
  | case7 cs =>
    -- an ampersand that starts no entity is not read at all
    simp [unescape?] at h
  | case8 c cs _ _ _ _ _ hc ih =>
    rw [unescape?_cons hc] at h
    obtain ⟨t, ht, rfl⟩ := Option.map_eq_some_iff.mp h
    rw [List.cons_append, unescape?_cons hc, ih ht, Option.map_map]
    rfl
  | case2 cs ih | case3 cs ih | case4 cs ih | case5 cs ih | case6 cs ih =>
    rw [unescape?] at h
    obtain ⟨t, ht, rfl⟩ := Option.map_eq_some_iff.mp h
    simp only [List.cons_append]
    rw [unescape?, ih ht, Option.map_map]
    rfl

theorem unescape?_escapeTextChar (c : Char) : unescape? (escapeTextChar c) = some [c] := by
  unfold escapeTextChar
  split
  · rename_i h
    rw [h]
    rfl
  · split
    · rename_i h
      rw [h]
      rfl
    · split
      · rename_i h
        rw [h]
        rfl
      · rename_i hamp _ _
        rw [unescape?_cons hamp]
        rfl

theorem unescape?_escapeAttributeChar (c : Char) :
    unescape? (escapeAttributeChar c) = some [c] := by
  unfold escapeAttributeChar
  split
  · rename_i h
    rw [h]
    rfl
  · exact unescape?_escapeTextChar c

/-- What is written character by character is read as a whole. -/
theorem unescape?_flatMap {f : Char → List Char} (h : ∀ c, unescape? (f c) = some [c])
    (cs : List Char) : unescape? (cs.flatMap f) = some cs := by
  induction cs with
  | nil => rfl
  | cons c cs ih =>
    rw [List.flatMap_cons, unescape?_append (h c), ih]
    rfl

theorem bracket_not_mem_escapeTextChar (c : Char) : '<' ∉ escapeTextChar c := by
  unfold escapeTextChar
  split
  · decide
  · split
    · decide
    · split
      · decide
      · rename_i hlt _
        simpa using Ne.symm hlt

theorem quote_not_mem_escapeAttributeChar (c : Char) : '"' ∉ escapeAttributeChar c := by
  unfold escapeAttributeChar escapeTextChar
  split
  · decide
  · split
    · decide
    · split
      · decide
      · split
        · decide
        · rename_i hquote _ _ _
          simpa using Ne.symm hquote

/-! ### The reader -/

/-- Where a reader stands, with what it has read of the piece that it is in. -/
inductive Place where
  /-- In a text run. -/
  | run (cs : List Char)
  /-- Behind the bracket that opens a tag. -/
  | bracket
  /-- In the line that names the kind of document. -/
  | declaration (cs : List Char)
  /-- In the name of a closing tag. -/
  | closing (cs : List Char)
  /-- In the name of an opening tag. -/
  | opening (cs : List Char)
  /-- In the name of an attribute, behind the attributes that are read already. -/
  | attributeName (tag : String) (before : List (String × String)) (cs : List Char)
  /-- Behind the sign of equality, before the quote. -/
  | quote (tag : String) (before : List (String × String)) (name : String)
  /-- In the value of an attribute. -/
  | value (tag : String) (before : List (String × String)) (name : String) (cs : List Char)
  /-- Behind the value of an attribute. -/
  | behind (tag : String) (before : List (String × String))

namespace Place

/-- What a character completes, and where it leads. -/
def step : Place → Char → Option (List MarkupToken × Place)
  | run cs, c =>
    -- entities are taken out of a run as a whole, once the next tag ends it
    if c = '<' then (unescape? cs).map fun s => ([.text (String.ofList s)], bracket)
    else some ([], run (cs ++ [c]))
  | bracket, c =>
    if c = '!' then some ([], declaration [])
    else if c = '/' then some ([], closing [])
    else if c.isAlpha then some ([], opening [c])
    else none
  | declaration cs, c =>
    if c = '>' then if cs = "DOCTYPE html".toList then some ([.doctype], run []) else none
    else some ([], declaration (cs ++ [c]))
  | closing cs, c =>
    if c = '>' then some ([.closing (String.ofList cs)], run [])
    else some ([], closing (cs ++ [c]))
  | opening cs, c =>
    if c = '>' then some ([.opening (String.ofList cs) []], run [])
    else if c = ' ' then some ([], attributeName (String.ofList cs) [] [])
    else some ([], opening (cs ++ [c]))
  | attributeName tag before cs, c =>
    if c = '=' then some ([], quote tag before (String.ofList cs))
    else some ([], attributeName tag before (cs ++ [c]))
  | quote tag before name, c =>
    if c = '"' then some ([], value tag before name []) else none
  | value tag before name cs, c =>
    -- only the quote ends a value; a bracket in it is a character like any other
    if c = '"' then
      (unescape? cs).map fun s => ([], behind tag (before ++ [(name, String.ofList s)]))
    else some ([], value tag before name (cs ++ [c]))
  | behind tag before, c =>
    -- another attribute follows after a blank, or the tag ends
    if c = '>' then some ([.opening tag before], run [])
    else if c = ' ' then some ([], attributeName tag before [])
    else none

/-- What the end of the characters completes: markup ends in a text run. -/
def finish : Place → Option (List MarkupToken)
  | run cs => (unescape? cs).map fun s => [.text (String.ofList s)]
  | _ => none

/-- The tokens that are read from here on. -/
def readFrom : Place → List Char → Option (List MarkupToken)
  | place, [] => place.finish
  | place, c :: rest =>
    (place.step c).bind fun (tokens, next) => (readFrom next rest).map (tokens ++ ·)

/-! ### Steps -/

theorem readFrom_step {place next : Place} {c : Char} {tokens : List MarkupToken}
    (h : place.step c = some (tokens, next)) (rest : List Char) :
    readFrom place (c :: rest) = (readFrom next rest).map (tokens ++ ·) := by
  rw [readFrom, h]
  rfl

/-- A step that completes nothing. -/
theorem readFrom_quiet {place next : Place} {c : Char} (h : place.step c = some ([], next))
    (rest : List Char) : readFrom place (c :: rest) = readFrom next rest := by
  rw [readFrom_step h]
  simp

/-- The reader goes over the characters like any scanner. -/
theorem readFrom_eq_scan (place : Place) (cs : List Char) :
    readFrom place cs = Scanner.scan ⟨step, finish⟩ place cs := by
  induction cs generalizing place with
  | nil => rfl
  | cons c cs ih =>
    rw [readFrom, Scanner.scan]
    refine Option.bind_congr fun next _ => ?_
    exact congrArg (Option.map (next.1 ++ ·)) (ih next.2)

/-- Characters that only make a piece longer are gathered. -/
theorem readFrom_gather (place : List Char → Place) {cs : List Char}
    (h : ∀ read, ∀ c ∈ cs, (place read).step c = some ([], place (read ++ [c])))
    (read rest : List Char) :
    readFrom (place read) (cs ++ rest) = readFrom (place (read ++ cs)) rest := by
  have hsteps : Scanner.steps ⟨step, finish⟩ (place read) cs = some ([], place (read ++ cs)) :=
    Scanner.steps_gather place h read
  rw [readFrom_eq_scan, readFrom_eq_scan, Scanner.scan_append hsteps]
  simp

end Place

/-- The tokens of a text of markup. -/
def readMarkup (s : String) : Option (List MarkupToken) :=
  Place.readFrom (.run []) s.toList

/-! ### Names -/

/-- A name of letters and digits that starts with a letter. -/
def isMarkupName (s : String) : Bool :=
  s.toList.head?.any Char.isAlpha && s.toList.all Char.isAlphanum

/-- Whether elements and attributes have names that can be told from what follows them. -/
def MarkupToken.isNamed : MarkupToken → Bool
  | .opening name attributes => isMarkupName name && attributes.all fun a => isMarkupName a.1
  | .closing name => isMarkupName name
  | _ => true

theorem ne_of_mem_name {name : String} (h : isMarkupName name = true) {c d : Char}
    (hc : c ∈ name.toList) (hd : d.isAlphanum = false) : c ≠ d := by
  rintro rfl
  have hall := List.all_eq_true.mp (Bool.and_eq_true_iff.mp h).2 c hc
  rw [hd] at hall
  cases hall

theorem exists_name_eq_cons {name : String} (h : isMarkupName name = true) :
    ∃ c cs, name.toList = c :: cs ∧ c.isAlpha = true := by
  have hhead := (Bool.and_eq_true_iff.mp h).1
  cases hname : name.toList with
  | nil => simp [hname] at hhead
  | cons c cs => exact ⟨c, cs, rfl, by simpa [hname] using hhead⟩

namespace Place

/-! ### Pieces of markup -/

/-- Characters without a bracket make a text run longer. -/
theorem readFrom_run {cs : List Char} (h : '<' ∉ cs) (raw rest : List Char) :
    readFrom (run raw) (cs ++ rest) = readFrom (run (raw ++ cs)) rest := by
  refine readFrom_gather run ?_ raw rest
  intro read c hc
  have hne : c ≠ '<' := by
    rintro rfl
    exact h hc
  simp [step, hne]

/-- An attribute is read with the text that its value stands for. -/
theorem readFrom_attribute {tag : String} {before : List (String × String)} {a : String × String}
    (h : isMarkupName a.1 = true) (rest : List Char) :
    readFrom (behind tag before) (MarkupToken.attributeChars a ++ rest) =
      readFrom (behind tag (before ++ [a])) rest := by
  -- space, name, sign of equality, quote, value, quote
  have hspace : (behind tag before).step ' ' = some ([], attributeName tag before []) := by
    simp [step]
  have hname : ∀ read, ∀ c ∈ a.1.toList, (attributeName tag before read).step c =
      some ([], attributeName tag before (read ++ [c])) := by
    intro read c hc
    simp [step, ne_of_mem_name h hc (show '='.isAlphanum = false by decide)]
  have hequal : (attributeName tag before a.1.toList).step '=' =
      some ([], quote tag before a.1) := by
    simp [step]
  have hopen : (quote tag before a.1).step '"' = some ([], value tag before a.1 []) := by
    simp [step]
  have hvalue : ∀ read, ∀ c ∈ a.2.toList.flatMap escapeAttributeChar,
      (value tag before a.1 read).step c = some ([], value tag before a.1 (read ++ [c])) := by
    intro read c hc
    obtain ⟨d, -, hd⟩ := List.mem_flatMap.mp hc
    have hne : c ≠ '"' := by
      rintro rfl
      exact quote_not_mem_escapeAttributeChar d hd
    simp [step, hne]
  have hclose : (value tag before a.1 (a.2.toList.flatMap escapeAttributeChar)).step '"' =
      some ([], behind tag (before ++ [a])) := by
    simp [step, unescape?_flatMap unescape?_escapeAttributeChar]
  unfold MarkupToken.attributeChars
  simp only [List.cons_append, List.append_assoc]
  rw [readFrom_quiet hspace, readFrom_gather (attributeName tag before) hname, List.nil_append,
    readFrom_quiet hequal, readFrom_quiet hopen, readFrom_gather (value tag before a.1) hvalue,
    List.nil_append, List.nil_append, readFrom_quiet hclose]

theorem readFrom_behind {tag : String} (attributes before : List (String × String))
    (h : ∀ a ∈ attributes, isMarkupName a.1 = true) (rest : List Char) :
    readFrom (behind tag before)
        (attributes.flatMap MarkupToken.attributeChars ++ '>' :: rest) =
      (readFrom (run []) rest).map (.opening tag (before ++ attributes) :: ·) := by
  induction attributes generalizing before with
  | nil =>
    have hend : (behind tag before).step '>' = some ([.opening tag before], run []) := by
      simp [step]
    rw [List.flatMap_nil, List.nil_append, List.append_nil, readFrom_step hend]
    rfl
  | cons a attributes ih =>
    rw [List.flatMap_cons, List.append_assoc, readFrom_attribute (h a (by simp)),
      ih _ fun b hb => h b (by simp [hb]), List.append_assoc]
    rfl

/-- Behind its name an opening tag goes on as behind an attribute. -/
theorem readFrom_behind_name (name : String) (attributes : List (String × String))
    (rest : List Char) :
    readFrom (opening name.toList)
        (attributes.flatMap MarkupToken.attributeChars ++ '>' :: rest) =
      readFrom (behind name [])
        (attributes.flatMap MarkupToken.attributeChars ++ '>' :: rest) := by
  have hend : (opening name.toList).step '>' = (behind name []).step '>' := by
    simp [step]
  have hspace : (opening name.toList).step ' ' = (behind name []).step ' ' := by
    simp [step]
  cases attributes with
  | nil =>
    rw [List.flatMap_nil, List.nil_append, readFrom, readFrom, hend]
  | cons a attributes =>
    show readFrom _ (' ' :: _) = readFrom _ (' ' :: _)
    rw [readFrom, readFrom, hspace]

theorem readFrom_opening {name : String} {attributes : List (String × String)}
    (h : (MarkupToken.opening name attributes).isNamed = true) (rest : List Char) :
    readFrom bracket
        (name.toList ++ (attributes.flatMap MarkupToken.attributeChars ++ '>' :: rest)) =
      (readFrom (run []) rest).map (.opening name attributes :: ·) := by
  obtain ⟨hname, hattributes⟩ := Bool.and_eq_true_iff.mp h
  obtain ⟨c, cs, hcons, hc⟩ := exists_name_eq_cons hname
  have hfirst : bracket.step c = some ([], opening [c]) := by
    have hmark : c ≠ '!' := ne_of_mem_name hname (by simp [hcons]) (by decide)
    have hslash : c ≠ '/' := ne_of_mem_name hname (by simp [hcons]) (by decide)
    simp [step, hmark, hslash, hc]
  have hgather : ∀ read, ∀ d ∈ cs, (opening read).step d = some ([], opening (read ++ [d])) := by
    intro read d hd
    have hend : d ≠ '>' := ne_of_mem_name hname (by simp [hcons, hd]) (by decide)
    have hspace : d ≠ ' ' := ne_of_mem_name hname (by simp [hcons, hd]) (by decide)
    simp [step, hend, hspace]
  have hread : ∀ l, readFrom bracket (name.toList ++ l) = readFrom (opening name.toList) l := by
    intro l
    rw [hcons, List.cons_append, readFrom_quiet hfirst, readFrom_gather opening hgather]
    rfl
  rw [hread, readFrom_behind_name, readFrom_behind attributes [] (List.all_eq_true.mp hattributes)]
  rfl

theorem readFrom_closing {name : String} (h : isMarkupName name = true) (rest : List Char) :
    readFrom bracket ('/' :: (name.toList ++ '>' :: rest)) =
      (readFrom (run []) rest).map (.closing name :: ·) := by
  have hslash : bracket.step '/' = some ([], closing []) := by
    simp [step]
  have hgather : ∀ read, ∀ c ∈ name.toList,
      (closing read).step c = some ([], closing (read ++ [c])) := by
    intro read c hc
    have hend : c ≠ '>' := ne_of_mem_name h hc (by decide)
    simp [step, hend]
  have hend : (closing name.toList).step '>' = some ([.closing name], run []) := by
    simp [step]
  rw [readFrom_quiet hslash, readFrom_gather closing hgather, List.nil_append, readFrom_step hend]
  rfl

theorem readFrom_doctype (rest : List Char) :
    readFrom bracket ("!DOCTYPE html>".toList ++ rest) =
      (readFrom (run []) rest).map (.doctype :: ·) := by
  have hmark : bracket.step '!' = some ([], declaration []) := by
    simp [step]
  have hgather : ∀ read, ∀ c ∈ "DOCTYPE html".toList,
      (declaration read).step c = some ([], declaration (read ++ [c])) := by
    intro read c hc
    have hend : c ≠ '>' := by
      rintro rfl
      exact absurd hc (by decide)
    simp [step, hend]
  have hend : (declaration "DOCTYPE html".toList).step '>' = some ([.doctype], run []) := by
    simp [step]
  show readFrom bracket ('!' :: ("DOCTYPE html".toList ++ '>' :: rest)) = _
  rw [readFrom_quiet hmark, readFrom_gather declaration hgather, List.nil_append,
    readFrom_step hend]
  rfl

end Place

/-! ### Whole texts -/

/-- Markup as it is read: before, between and behind the tags stands one text, which may be empty.
    `run` is the text that has been met since the last tag. -/
def settle (run : String) : List MarkupToken → List MarkupToken
  | [] => [.text run]
  | .text s :: rest => settle (run ++ s) rest
  | .blank :: rest => settle (run ++ "\u00A0") rest
  | tag :: rest => .text run :: tag :: settle "" rest

namespace Place

/-- Characters without a bracket that stand for a text are added to the run. -/
theorem readFrom_chars_text {tokens : List MarkupToken} {raw cs s u : List Char}
    (hraw : unescape? raw = some s) (hcs : unescape? cs = some u) (hbracket : '<' ∉ cs)
    (ih : ∀ {raw s : List Char}, unescape? raw = some s →
      readFrom (run raw) (tokens.flatMap MarkupToken.chars) =
        some (settle (String.ofList s) tokens)) :
    readFrom (run raw) (cs ++ tokens.flatMap MarkupToken.chars) =
      some (settle (String.ofList s ++ String.ofList u) tokens) := by
  have hboth : unescape? (raw ++ cs) = some (s ++ u) := by
    rw [unescape?_append hraw, hcs]
    rfl
  rw [readFrom_run hbracket, ih hboth, String.ofList_append]

/-- The reader gives tokens back, whatever it has read of a text run before them. -/
theorem readFrom_chars {tokens : List MarkupToken} (h : ∀ t ∈ tokens, t.isNamed = true)
    {raw s : List Char} (hraw : unescape? raw = some s) :
    readFrom (run raw) (tokens.flatMap MarkupToken.chars) =
      some (settle (String.ofList s) tokens) := by
  induction tokens generalizing raw s with
  | nil =>
    show (unescape? raw).map _ = _
    rw [hraw]
    rfl
  | cons t tokens ih =>
    have ih := fun {raw s} => @ih (fun u hu => h u (by simp [hu])) raw s
    have hnamed := h t (by simp)
    -- a tag ends the run, and the next one starts empty
    have hbracket : (run raw).step '<' = some ([.text (String.ofList s)], bracket) := by
      simp [step, hraw]
    have hnext : readFrom (run []) (tokens.flatMap MarkupToken.chars) = some (settle "" tokens) :=
      ih rfl
    rw [List.flatMap_cons]
    cases t with
    | text u =>
      have hescaped := unescape?_flatMap unescape?_escapeTextChar u.toList
      have hsafe : '<' ∉ u.toList.flatMap escapeTextChar := by
        intro hmem
        obtain ⟨c, -, hc⟩ := List.mem_flatMap.mp hmem
        exact bracket_not_mem_escapeTextChar c hc
      have hread := readFrom_chars_text hraw hescaped hsafe ih
      rwa [String.ofList_toList] at hread
    | blank =>
      have hescaped : unescape? "&nbsp;".toList = some ['\u00A0'] := rfl
      exact readFrom_chars_text hraw hescaped (by decide) ih
    | doctype =>
      show readFrom (run raw) ('<' :: ("!DOCTYPE html>".toList ++ _)) = _
      rw [readFrom_step hbracket, readFrom_doctype, hnext]
      rfl
    | opening name attributes =>
      have hchars : (MarkupToken.opening name attributes).chars =
          '<' :: name.toList ++ attributes.flatMap MarkupToken.attributeChars ++ ['>'] := rfl
      rw [hchars, List.append_assoc, List.append_assoc, List.cons_append, List.singleton_append,
        readFrom_step hbracket, readFrom_opening hnamed, hnext]
      rfl
    | closing name =>
      have hchars : (MarkupToken.closing name).chars = '<' :: '/' :: name.toList ++ ['>'] := rfl
      rw [hchars, List.append_assoc, List.cons_append, List.cons_append, List.singleton_append,
        readFrom_step hbracket, readFrom_closing hnamed, hnext]
      rfl

end Place

/-- Reading gives back what was written: every tag, and the text between each two tags. -/
theorem readMarkup_render {tokens : List MarkupToken} (h : ∀ t ∈ tokens, t.isNamed = true) :
    readMarkup (MarkupToken.render tokens) = some (settle "" tokens) := by
  unfold readMarkup MarkupToken.render
  rw [String.toList_ofList]
  exact Place.readFrom_chars h rfl

end NodeReport.Text

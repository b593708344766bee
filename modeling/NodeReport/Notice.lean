/-! # Notices

  What a computation has to say besides its result: progress, statements sent to the store, and
  data that had to be skipped. A noted value carries the notices in the order in which they arose;
  they never change the value.
-/

namespace NodeReport

/-- How grave a notice is. -/
inductive Severity where
  | error
  | warning
  | info
  | debug
deriving DecidableEq, Repr

/-- How a severity is written. -/
def Severity.name : Severity → String
  | .error => "ERROR"
  | .warning => "WARN"
  | .info => "INFO"
  | .debug => "DEBUG"

/-- A message to whoever runs the program. -/
structure Notice where
  /-- How grave it is. -/
  severity : Severity
  /-- What it says. -/
  message : String
deriving DecidableEq, Repr

/-- A notice as one line, severity first. -/
def Notice.line (n : Notice) : String :=
  n.severity.name ++ " " ++ n.message

/-- A value with the notices that arose on the way to it. -/
structure Noted (α : Type) where
  /-- The result. -/
  value : α
  /-- The notices, oldest first. -/
  notices : List Notice

namespace Noted

variable {α β : Type}

/-- A value about which there is nothing to say. -/
protected def pure (a : α) : Noted α := ⟨a, []⟩

/-- One computation after another; the notices follow each other. -/
protected def bind (x : Noted α) (f : α → Noted β) : Noted β :=
  ⟨(f x.value).value, x.notices ++ (f x.value).notices⟩

instance : Monad Noted where
  pure := Noted.pure
  bind := Noted.bind

@[simp]
theorem value_pure (a : α) : (pure a : Noted α).value = a := rfl

@[simp]
theorem notices_pure (a : α) : (pure a : Noted α).notices = [] := rfl

@[simp]
theorem value_bind (x : Noted α) (f : α → Noted β) : (x >>= f).value = (f x.value).value := rfl

@[simp]
theorem notices_bind (x : Noted α) (f : α → Noted β) :
    (x >>= f).notices = x.notices ++ (f x.value).notices := rfl

@[simp]
theorem value_map (f : α → β) (x : Noted α) : (f <$> x).value = f x.value := rfl

@[simp]
theorem notices_map (f : α → β) (x : Noted α) : (f <$> x).notices = x.notices :=
  List.append_nil _

instance : LawfulMonad Noted :=
  LawfulMonad.mk' Noted
    (fun x => by
      cases x
      exact congrArg (Noted.mk _) (List.append_nil _))
    (fun _ _ => rfl)
    (fun _ _ _ => congrArg (Noted.mk _) (List.append_assoc _ _ _))

/-- Gives notices and no result. -/
def tell (notices : List Notice) : Noted Unit := ⟨(), notices⟩

@[simp]
theorem notices_tell (notices : List Notice) : (tell notices).notices = notices := rfl

/-- The results for the members of a list, one after another. -/
def each (f : α → Noted β) : List α → Noted (List β)
  | [] => pure []
  | a :: rest => do
    let b ← f a
    let bs ← each f rest
    pure (b :: bs)

@[simp]
theorem value_each (f : α → Noted β) (as : List α) :
    (each f as).value = as.map fun a => (f a).value := by
  induction as with
  | nil => rfl
  | cons a rest ih => simp [each, ih]

end Noted

end NodeReport

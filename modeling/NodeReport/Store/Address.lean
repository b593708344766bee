import NodeReport.Store.DatabaseError
import NodeReport.Text.Basic
import NodeReport.Text.UrlEncoding
import NodeReport.Text.Utf8

/-! # Addresses of databases

  What a path means when it names a database. It is the path of a file; or it is empty or
  `:memory:` and means a database that is forgotten after use; or it starts with `file:` and is
  followed by the path of a file, in which bytes may be percent-encoded, and by options after a
  question mark.
-/

namespace NodeReport

/-- What may be done with a database. -/
inductive Access where
  /-- Reading a file that is there. -/
  | readOnly
  /-- Changing a file that is there. -/
  | existing
  /-- Changing a file, which is made if it is missing. -/
  | creating
  /-- Anything, but nothing is kept. -/
  | forgotten
deriving DecidableEq, Repr

namespace Access

/-- The access with this name. -/
def ofName? (name : String) : Option Access :=
  if name = "ro" then some .readOnly
  else if name = "rw" then some .existing
  else if name = "rwc" then some .creating
  else if name = "memory" then some .forgotten
  else none

/-- How much a kind of access allows; it cannot be replaced by one that allows more. -/
def level : Access → Nat
  | .readOnly => 1
  | .existing => 2
  | .creating => 3
  | .forgotten => 0

/-- Whether one kind of access can be replaced by another. -/
def permits (a b : Access) : Bool :=
  a == .forgotten || decide (b.level ≤ a.level)

end Access

/-- A database's file, or none, and what may be done with it. -/
structure DatabaseAddress where
  /-- The path of the file. -/
  path : String
  /-- What may be done. -/
  access : Access
deriving DecidableEq

namespace DatabaseAddress

/-- Whether nothing is kept. -/
def isForgotten (a : DatabaseAddress) : Bool :=
  a.access == .forgotten || a.path == "" || a.path == ":memory:"

/-! ### Parts -/

/-- What follows `file:`. -/
def afterScheme? (cs : List Char) : Option (List Char) :=
  if "file:".toList.isPrefixOf cs then some (cs.drop 5) else none

/-- What follows the name of a machine, which stands between `//` and the next slash and can only be
    this one. -/
def afterAuthority : List Char → Except DatabaseError (List Char)
  | '/' :: '/' :: rest =>
    let authority := rest.takeWhile (· != '/')
    if authority = [] ∨ authority = "localhost".toList then .ok (rest.dropWhile (· != '/'))
    else .error (.foreignAuthority (String.ofList authority))
  | cs => .ok cs

/-- A text up to a separator, and what follows it. -/
def cut (separator : Char) (cs : List Char) : List Char × List Char :=
  (cs.takeWhile (· != separator), (cs.dropWhile (· != separator)).drop 1)

/-- The options in the text after the question mark; those without a name do not count. -/
def options (query : List Char) : List (String × String) :=
  let all := (Text.split '&' query).map fun part =>
    let (name, value) := cut '=' part
    (Text.percentDecode name, Text.percentDecode value)
  all.filter fun (name, _) => name != ""

/-! ### Options -/

/-- What the options have said so far. -/
structure Settings where
  /-- What may be done. -/
  access : Access
  /-- The way to the files. -/
  layer : String := "unix"

/-- The ways to files, the last of which keeps nothing. -/
def layers : List String :=
  ["unix", "unix-none", "unix-dotfile", "unix-excl", "memdb"]

/-- Takes one option; options with other names say nothing. -/
def Settings.take (s : Settings) : String × String → Except DatabaseError Settings
  | (name, value) =>
    if name = "vfs" then .ok { s with layer := value }
    else if name = "cache" then
      if value = "shared" ∨ value = "private" then .ok s else .error (.noSuchMode "cache" value)
    else if name = "mode" then
      match Access.ofName? value with
      | none => .error (.noSuchMode "access" value)
      | some access =>
        if s.access.permits access then .ok { s with access }
        else .error (.modeNotAllowed "access" value)
    else .ok s

/-- The access that all options together give. -/
def Settings.final (s : Settings) : Except DatabaseError Access :=
  if s.layer = "memdb" then .ok .forgotten
  else if layers.contains s.layer then .ok s.access
  else .error (.noSuchLayer s.layer)

/-! ### Reading -/

/-- The place of the first byte of value zero. -/
def nulPosition? (path : String) : Option Nat :=
  (Text.utf8 path).findIdx? (· == 0)

/-- The address that follows `file:`. -/
def ofScheme (access : Access) (cs : List Char) : Except DatabaseError DatabaseAddress := do
  let rest ← afterAuthority cs
  let (name, query) := cut '?' (rest.takeWhile (· != '#'))
  let settings ← (options query).foldlM Settings.take { access }
  let access ← settings.final
  .ok { path := Text.percentDecode name, access }

/-- The address that a path means. -/
def ofPath (access : Access) (path : String) : Except DatabaseError DatabaseAddress :=
  match nulPosition? path with
  | some n => .error (.nulByte n)
  | none =>
    match afterScheme? path.toList with
    | some rest => ofScheme access rest
    | none => .ok { path, access }

end DatabaseAddress

end NodeReport

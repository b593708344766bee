import NodeReport.Text.Basic

/-! # Paths and places

  A path is a text of names with slashes between them. A place is what a path comes down to: the
  names on the way from the working directory, or from the top, without those that only stay or go
  back.
-/

namespace NodeReport

/-! ### Paths -/

namespace Path

/-- Whether a path starts at the top. -/
def fromTop (path : String) : Bool :=
  path.toList.head? == some '/'

/-- Whether a path ends with a slash, so that only a directory can be meant. -/
def isSlashed (path : String) : Bool :=
  path.toList.getLast? == some '/'

/-- The names of a path, in order. -/
def names (path : String) : List String :=
  ((Text.split '/' path.toList).filter fun part => !part.isEmpty).map String.ofList

/-- The names of a path without those that stay, of which only one at the start counts. -/
def components (path : String) : List String :=
  let names := names path
  let start := if fromTop path then [] else (names.take 1).filter (· == ".")
  start ++ names.filter (· != ".")

/-- The path with these components. -/
def ofComponents (atTop : Bool) (components : List String) : String :=
  (if atTop then "/" else "") ++ "/".intercalate components

/-- The path of the directory in which a path ends; the top and the empty path have none. -/
def parent? (path : String) : Option String :=
  match components path with
  | [] => none
  | name :: rest => some (ofComponents (fromTop path) (name :: rest).dropLast)

/-- The paths above a path, the nearest first, down to those that are always there. -/
def above (path : String) : List String :=
  let components := components path
  ((List.range components.length).drop 1).reverse.map fun k =>
    ofComponents (fromTop path) (components.take k)

/-- The most bytes that a name may have. -/
def nameLimit : Nat := 255

/-- The number of bytes that a path has to stay below. -/
def sizeLimit : Nat := 4096

end Path

/-! ### Places -/

/-- A place in a tree of files: the names on the way to it from the working directory, or from the
    top after the name `/`. Ways back stand only at the start. -/
abbrev Place := List String

namespace Place

/-- The place at which a path starts. -/
def start (path : String) : Place :=
  if Path.fromTop path then ["/"] else []

/-- The place above a place; above the top is the top. -/
def up (place : Place) : Place :=
  match place.getLast? with
  | none => [".."]
  | some last =>
    if last = "/" then place
    else if last = ".." then place ++ [".."]
    else place.dropLast

/-- Goes on to a name: `.` stays, and `..` goes back. -/
def step (place : Place) (name : String) : Place :=
  if name = "." then place
  else if name = ".." then place.up
  else place ++ [name]

/-- The place to which the names of a path lead, whatever stands on the way. -/
def ofPath (path : String) : Place :=
  (Path.names path).foldl step (start path)

/-- Whether a place is the working directory, the top, or above them. -/
def isGiven (place : Place) : Bool :=
  place == ["/"] || place.all (· == "..")

/-- A place beside another one, with some letters more in its last name. -/
def beside (place : Place) (ending : String) : Place :=
  match place.getLast? with
  | none => [ending]
  | some last => place.dropLast ++ [last ++ ending]

/-- The number of bytes of a place's names, with a slash before each. -/
def size (place : Place) : Nat :=
  place.foldl (fun n name => n + 1 + name.utf8ByteSize) 0

end Place

end NodeReport

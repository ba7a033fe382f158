import UiBootstrap.Text.Utf8

/-!
# Paths

A path is a walk through the directories: its steps, which slashes separate, lead from one place to
the next. An empty step and `.` stay where they are, `..` goes to the directory above, and any other
step goes to the entry of that name. The walk sets out from the working directory, or from the root
if the path begins with a slash. `Place.ofPath` is where it ends; whether it gets there depends on
the files, since every step sets out from a directory (`Files.look`). A path has at most 4095 bytes
and a name in it at most 255.
-/

namespace UiBootstrap

/-- A place in the tree of files, as seen from the working directory. -/
inductive Place where
  | root
  /-- The directory so many levels above the working directory: that one itself, at level 0. -/
  | above (levels : Nat)
  | entry (name : Text) (directory : Place)
  deriving DecidableEq, Repr

namespace Place

/-- The directory above a place. Nothing is above the root. -/
def parent : Place → Place
  | root => root
  | above levels => above (levels + 1)
  | entry _ directory => directory

/-- Where a step leads. -/
def step (place : Place) (name : Text) : Place :=
  if name = [] ∨ name = "." then place
  else if name = ".." then place.parent
  else entry name place

/-- Whether a name is longer than that of any entry of a directory. -/
def isLongName (name : Text) : Bool := 255 < (Text.Utf8.encode name).length

/-- Whether a path is too long to be followed at all. -/
def isLongPath (path : Text) : Bool := 4095 < (Text.Utf8.encode path).length

/-- The steps of a path. -/
def steps (path : Text) : List Text := path.splitOn '/'

/-- Where a path sets out. -/
def start (path : Text) : Place := if path.head? = some '/' then root else above 0

/-- Where a path leads. -/
def ofPath (path : Text) : Place := (steps path).foldl step (start path)

/-- What stands before the name of an entry of a directory, in the shortest path to it. -/
def lead : Place → Text
  | root => "/"
  | above levels => (List.replicate levels ("../" : Text)).flatten
  | entry name directory => directory.lead ++ name ++ "/"

/-- The shortest path to an entry of a directory. -/
def address (name : Text) (directory : Place) : Text := directory.lead ++ name

end Place

end UiBootstrap

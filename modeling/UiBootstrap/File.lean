import UiBootstrap.Text.Utf8
import UiBootstrap.Keyed
import UiBootstrap.Path

/-!
# Files

What can stand under a path, reading it as text, how writing it can end, and the files around the
working directory. These are known by their shortest paths. A directory is known also by a file in
it; the root, the working directory and those above it are always there, and so is the null device.
-/

namespace UiBootstrap

/-- What keeps a path from leading anywhere. -/
inductive Obstacle where
  /-- On the way there is a file where a directory is needed. -/
  | file
  /-- The path, or a name in it, is too long. -/
  | length
  deriving DecidableEq, Repr

/-- What stands under a path. -/
inductive FileState where
  | missing
  | directory
  | contents (bytes : List UInt8)
  /-- Something that the system will not open, for the reason that it gives. -/
  | closed (reason : Text)
  /-- Nothing that could be reached. -/
  | unreachable (obstacle : Obstacle)
  deriving DecidableEq, Repr

/-- Why a path cannot be read as text. -/
inductive ReadError where
  | notFound
  | unreachable (obstacle : Obstacle)
  | isDirectory
  | refused (reason : Text)
  | notUtf8
  deriving DecidableEq, Repr

/-- The wording of a read error. -/
def ReadError.message : ReadError → Text
  | .notFound => "No such file or directory (os error 2)"
  | .unreachable .file => "Not a directory (os error 20)"
  | .unreachable .length => "File name too long (os error 36)"
  | .isDirectory => "Is a directory (os error 21)"
  | .refused reason => reason
  | .notUtf8 => "stream did not contain valid UTF-8"

namespace FileState

/-- The file that holds a text. -/
def ofText (t : Text) : FileState := .contents (Text.Utf8.encode t)

/-- The text that a file holds. -/
def readText : FileState → Except ReadError Text
  | .missing => .error .notFound
  | .directory => .error .isDirectory
  | .closed reason => .error (.refused reason)
  | .unreachable obstacle => .error (.unreachable obstacle)
  | .contents bytes =>
    match Text.Utf8.decode? bytes with
    | some t => .ok t
    | none => .error .notUtf8

end FileState

/-- How writing a file ends. A file is emptied when it is opened for that, and then gets its bytes
from the first on. -/
inductive WriteOutcome where
  | done
  /-- Nothing was written and the file is what it was, for this reason. -/
  | refused (reason : Text)
  /-- Writing broke off, for this reason, when so many bytes had been written. -/
  | broken (reason : Text) (written : Nat)
  deriving DecidableEq, Repr

namespace WriteOutcome

/-- Why a file could not be written, if it could not. -/
def fault? : WriteOutcome → Option Text
  | .done => none
  | .refused reason => some reason
  | .broken reason _ => some reason

/-- The bytes that are in a file after these were to be written, unless it is what it was. -/
def left? (bytes : List UInt8) : WriteOutcome → Option (List UInt8)
  | .done => some bytes
  | .refused _ => none
  | .broken _ written => some (bytes.take written)

end WriteOutcome

/-- Files by the shortest paths to them. -/
abbrev Files := Keyed FileState

namespace Files

/-- What stands everywhere: the null device, which reads as an empty file. -/
def everywhere : Files := [("/dev/null", .contents [])]

/-- What stands at a place. -/
def standing (files : Files) : Place → FileState
  | .root | .above _ => .directory
  | .entry name directory =>
    let address := Place.address name directory
    let known := files ++ everywhere
    match known.get? address with
    | some file => file
    | none => if known.keys.any ((address ++ "/").isPrefixOf ·) then .directory else .missing

/-- What a walk finds at its end, if it gets there: each step sets out from a directory. -/
def follow (files : Files) (place : Place) : List Text → FileState
  | [] => files.standing place
  | name :: rest =>
    match files.standing place with
    | .directory =>
      if Place.isLongName name then .unreachable .length
      else files.follow (place.step name) rest
    | .contents _ => .unreachable .file
    | state => state

/-- What stands under a path. The empty path leads nowhere. -/
def look (files : Files) (path : Text) : FileState :=
  if path = [] then .missing
  else if Place.isLongPath path then .unreachable .length
  else files.follow (Place.start path) (Place.steps path)

/-- Puts something else under a path. -/
def set (files : Files) (path : Text) (file : FileState) : Files :=
  match Place.ofPath path with
  | .entry name directory => files.put (Place.address name directory) file
  | _ => files

end Files

end UiBootstrap

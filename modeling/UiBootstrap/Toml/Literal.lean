import UiBootstrap.Toml.Strings
import UiBootstrap.Toml.Scalar
import UiBootstrap.Toml.Table

/-!
# Keys and values

A key is a path of one part or more with dots between them. A value is a string, a word, a list or
a table in braces. Lists may run over several lines and end in a comma; tables in braces do
neither. Paths are shorter than eighty parts, and lists and tables nest less than eighty deep.
-/

namespace UiBootstrap.Toml

/-- Paths are shorter, and values nest less deeply, than this. -/
def depthLimit : Nat := 80

/-- Whether a character may stand in a key without quotes. -/
def isBareKeyChar (c : Char) : Bool := c.isAlphanum || c = '_' || c = '-'

/-- One part of a key. -/
def simpleKey? (cs : Text) : Option (Text × Text) :=
  match quoted? cs with
  | some result => some result
  | none =>
    let bare := cs.takeWhile isBareKeyChar
    if bare.isEmpty then none else some (bare, cs.dropWhile isBareKeyChar)

/-- One part of a key with the spacing around it. -/
def keyPart? (cs : Text) : Option (Text × Text) :=
  (simpleKey? (skipSpacing cs)).map fun (part, rest) => (part, skipSpacing rest)

/-- One item behind a given sign. -/
def behind? {α : Type} (sign : Char) (item : Reader α) (cs : Text) : Option (α × Text) :=
  (char? sign cs).bind item

/-- Items with a sign between each and the next, one at least. -/
def separated? {α : Type} (sign : Char) (item : Reader α) (cs : Text) :
    Option (List α × Text) := do
  let (first, rest) ← item cs
  let (more, rest) := many (behind? sign item) rest
  return (first :: more, rest)

/-- The path of a key: the parts before the last, and the last. -/
def keyPath? (cs : Text) : Option ((List Text × Text) × Text) := do
  let (parts, rest) ← separated? '.' keyPart? cs
  let key ← parts.getLast?
  if parts.length < depthLimit then some ((parts.dropLast, key), rest) else none

/-- A key, an equals sign and a value. -/
def assignment? (value : Reader Value) (cs : Text) :
    Option (((List Text × Text) × Value) × Text) := do
  let (path, rest) ← keyPath? cs
  let rest ← char? '=' rest
  let (v, rest) ← value (skipSpacing rest)
  return ((path, v), rest)

/-- An assignment in braces, with the spacing behind it. -/
def inlinePair? (value : Reader Value) (cs : Text) :
    Option (((List Text × Text) × Value) × Text) :=
  (assignment? value cs).map fun (entry, rest) => (entry, skipSpacing rest)

/-- A table in braces, read behind the opening one. -/
def inlineTable? (value : Reader Value) (cs : Text) : Option (Value × Text) := do
  let (entries, rest) := (separated? ',' (inlinePair? value) cs).getD ([], skipSpacing cs)
  let rest ← char? '\x7d' rest
  let table ← entries.foldlM (fun table ((path, key), v) => Entries.assign? path key v table) []
  return (.table (entryValues table), rest)

/-- An item of a list, with what fills the space around it. -/
def arrayItem? (value : Reader Value) (cs : Text) : Option (Value × Text) :=
  (value (skipFiller false cs)).map fun (v, rest) => (v, skipFiller false rest)

/-- A list, read behind its opening bracket. -/
def array? (value : Reader Value) (cs : Text) : Option (Value × Text) := do
  match separated? ',' (arrayItem? value) cs with
  | none => return (.array [], ← char? ']' (skipFiller false cs))
  | some (items, rest) =>
    let rest := skipFiller false ((char? ',' rest).getD rest)
    return (.array items, ← char? ']' rest)

/-- A value in which lists and tables nest at most `depth` deep. -/
def valueWithin? : Nat → Reader Value
  | _, [] => none
  | 0, c :: cs =>
    if c = '"' || c = '\'' then (string? (c :: cs)).map fun (t, rest) => (.string t, rest)
    else scalar? (c :: cs)
  | depth + 1, c :: cs =>
    if c = '"' || c = '\'' then (string? (c :: cs)).map fun (t, rest) => (.string t, rest)
    else if c = '[' then array? (valueWithin? depth) cs
    else if c = '\x7b' then inlineTable? (valueWithin? depth) cs
    else scalar? (c :: cs)

/-- A value. -/
def value? : Reader Value := valueWithin? (depthLimit - 1)

end UiBootstrap.Toml

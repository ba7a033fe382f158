import UiBootstrap.Toml.Literal

/-!
# Documents

A document is a sequence of lines: an assignment, a header, or neither, and a comment. It is first
read into statements, which are then carried out from front to back. An assignment goes into the
table that the header before it started. A byte order mark in front is skipped.
-/

namespace UiBootstrap.Toml

/-- A line of a document that says something. -/
inductive Statement where
  /-- A value for the key at the end of a dotted path. -/
  | assign (path : List Text) (key : Text) (v : Value)
  /-- The header of a table. -/
  | table (path : List Text) (key : Text)
  /-- The header of a further table of a list. -/
  | element (path : List Text) (key : Text)

/-- A header, read from its opening bracket on. -/
def header? : Reader Statement
  | '[' :: '[' :: cs => do
    let ((path, key), rest) ← keyPath? cs
    let rest ← char? ']' rest
    return (.element path key, ← char? ']' rest)
  | '[' :: cs => do
    let ((path, key), rest) ← keyPath? cs
    return (.table path key, ← char? ']' rest)
  | _ => none

/-- An assignment as a statement. -/
def assignStatement? (cs : Text) : Option (Statement × Text) :=
  (assignment? value? cs).map fun (((path, key), v), rest) => (.assign path key v, rest)

/-- The statement on a line, if it makes one. -/
def statement? (cs : Text) : Option (Option Statement × Text) :=
  match cs with
  | [] => some (none, [])
  | c :: _ =>
    if c = '#' || c = '\n' || c = '\r' then some (none, cs)
    else if c = '[' then (header? cs).map fun (s, rest) => (some s, rest)
    else (assignStatement? cs).map fun (s, rest) => (some s, rest)

/-- One line with its end. -/
def line? (cs : Text) : Option (Option Statement × Text) := do
  let (statement, rest) ← statement? (skipSpacing cs)
  return (statement, ← lineEnd? rest)

/-- The statements of a text of at most `n` lines. -/
def statementsUpTo? : Nat → Text → Option (List Statement)
  | _, [] => some []
  | 0, _ :: _ => none
  | n + 1, c :: cs => do
    let (statement, rest) ← line? (c :: cs)
    return statement.toList ++ (← statementsUpTo? n rest)

/-- The statements of a text. Every line takes a character at least. -/
def statements? (cs : Text) : Option (List Statement) := statementsUpTo? cs.length cs

/-- A document of which some statements have been carried out. -/
structure Draft where
  /-- The tables so far. -/
  root : Entries := []
  /-- The path to the table that assignments go into. -/
  current : List Text := []

/-- Carries out a statement. -/
def Draft.run? (draft : Draft) : Statement → Option Draft
  | .assign path key v => do
    let root ← Entries.modify? (Entries.assign? path key v) draft.current draft.root
    return { draft with root }
  | .table path key => do
    let root ← Entries.modify? (Entries.open? key) path draft.root
    return { root, current := path ++ [key] }
  | .element path key => do
    let root ← Entries.modify? (Entries.append? key) path draft.root
    return { root, current := path ++ [key] }

/-- A text without the byte order mark in front. -/
def skipMark : Text → Text
  | '\uFEFF' :: rest => rest
  | cs => cs

/-- The table that a document writes. -/
def parse? (document : Text) : Option (Keyed Value) := do
  let draft ← (← statements? (skipMark document)).foldlM Draft.run? {}
  return entryValues draft.root

end UiBootstrap.Toml

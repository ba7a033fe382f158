import UiBootstrap.Toml.Value

/-!
# Tables under construction

A document fills its tables bit by bit, and how a table came to be decides what may still be added
to it. A table that a header names may be named once. A table that stands above one in a header is
implied, and may still get a header of its own. A table that a dotted key names grows by dotted keys
alone. A value, and so a table or list written as one, is closed.
-/

namespace UiBootstrap.Toml

/-- How a table came to be. -/
inductive Origin where
  /-- A header names a table inside it. -/
  | implied
  /-- A dotted key goes through it. -/
  | dotted
  /-- A header names it. -/
  | header
  deriving DecidableEq, Repr

/-- What stands under a key while a document is read. -/
inductive Node where
  /-- A value, which is closed. -/
  | value (v : Value)
  /-- A table that may still grow. -/
  | table (origin : Origin) (entries : List (Text × Node))
  /-- A list of tables, each named by a header of its own; the last may still grow. -/
  | tables (older : List (List (Text × Node))) (last : List (Text × Node))

mutual

/-- What stands under a key, once the document has been read. -/
def Node.toValue : Node → Value
  | .value v => v
  | .table _ entries => .table (entryValues entries)
  | .tables older last => .array (tableValues older ++ [.table (entryValues last)])

/-- The entries of a table, once the document has been read. -/
def entryValues : List (Text × Node) → List (Text × Value)
  | [] => []
  | (key, node) :: rest => (key, node.toValue) :: entryValues rest

/-- The tables of a list, once the document has been read. -/
def tableValues : List (List (Text × Node)) → List Value
  | [] => []
  | entries :: rest => .table (entryValues entries) :: tableValues rest

end

/-- The entries of a table under construction. -/
abbrev Entries := Keyed Node

namespace Entries

/-- Adds a value under a new key. -/
def add? (key : Text) (v : Value) (entries : Entries) : Option Entries :=
  match entries.get? key with
  | none => some (entries.put key (.value v))
  | some _ => none

/-- Adds a value under the key at the end of a dotted path. The path may go through implied and
dotted tables and through the last table of a list, and it has to end in a dotted one. -/
def assign? : List Text → Text → Value → Entries → Option Entries
  | [], key, v, entries => entries.add? key v
  | k :: path, key, v, entries =>
    match entries.get? k with
    | none => (assign? path key v []).map fun inner => entries.put k (.table .dotted inner)
    | some (.table origin inner) =>
      if origin = .header ∨ (path = [] ∧ origin ≠ .dotted) then none
      else (assign? path key v inner).map fun inner => entries.put k (.table origin inner)
    | some (.tables older last) =>
      if path = [] then none
      else (assign? path key v last).map fun last => entries.put k (.tables older last)
    | some (.value _) => none

/-- Changes the table that a path of headers leads to. Tables on the way that are not there yet are
implied; a list of tables stands for its last one. -/
def modify? (f : Entries → Option Entries) : List Text → Entries → Option Entries
  | [], entries => f entries
  | k :: path, entries =>
    match entries.get? k with
    | none => (modify? f path []).map fun inner => entries.put k (.table .implied inner)
    | some (.table origin inner) =>
      (modify? f path inner).map fun inner => entries.put k (.table origin inner)
    | some (.tables older last) =>
      (modify? f path last).map fun last => entries.put k (.tables older last)
    | some (.value _) => none

/-- Starts the table that a header names. It may be new or implied. -/
def open? (key : Text) (entries : Entries) : Option Entries :=
  match entries.get? key with
  | none => some (entries.put key (.table .header []))
  | some (.table .implied inner) => some (entries.put key (.table .header inner))
  | some _ => none

/-- Starts a further table of the list that a header names. The list may be new. -/
def append? (key : Text) (entries : Entries) : Option Entries :=
  match entries.get? key with
  | none => some (entries.put key (.tables [] []))
  | some (.tables older last) => some (entries.put key (.tables (older ++ [last]) []))
  | some _ => none

end Entries

end UiBootstrap.Toml

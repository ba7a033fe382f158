import UiBootstrap.Vocabulary
import UiBootstrap.Listing
import UiBootstrap.Event

/-!
# Merging the environment

The environment is read from front to back. A variable of the vocabulary competes for its key: it is
listed if the key has no value, it is ignored if it is a legacy alias and the value that
stands there is not a default, and otherwise it drops that value and goes to the end. What became
of each recognized variable is kept in a trace.
-/

namespace UiBootstrap

/-- The variables of a process with their values, in the order in which they are read. -/
abbrev Environment := List (Text × Text)

/-- What an environment is read with. -/
structure Options where
  /-- Whether the defaults are listed before the environment is read. -/
  seed : Bool := false
  /-- The recognized variables. -/
  vocabulary : Vocabulary
  /-- The defaults. -/
  defaults : Defaults := {}
  deriving DecidableEq, Repr

namespace Options

/-- The recognized variables and defaults that are built in. -/
def standard : Options := { vocabulary := .standard, defaults := .standard }

/-- The options for the call that sets up authorization. -/
def oauth : Options := { vocabulary := .oauth }

/-- The values that stand before the environment is read. -/
def start (options : Options) : Listing :=
  if options.seed then .ofDefaults options.defaults else {}

end Options

/-- What became of a recognized variable. -/
inductive Outcome where
  /-- It is the first value for its key. -/
  | inserted
  /-- It took the place of a value; `previousDefault` if that was a default. -/
  | replaced (previousDefault : Bool)
  /-- It is a legacy alias and lost to the value that was there. -/
  | superseded
  deriving DecidableEq, Repr

/-- What becomes of a variable with this schema where `existing` stands under its key. -/
def Outcome.of (schema : VarSchema) : Option Binding → Outcome
  | none => .inserted
  | some existing =>
    if schema.legacy && !existing.schema.isDefault then .superseded
    else .replaced existing.schema.isDefault

/-- What becomes of a variable with this schema when it is read over a listing. -/
def Listing.outcome (listing : Listing) (schema : VarSchema) : Outcome :=
  .of schema (listing.get? schema.key)

/-- The listing after a variable has been read over it. -/
def Listing.settle (listing : Listing) (v : Binding) : Listing :=
  if listing.outcome v.schema = .superseded then listing else listing.insert v.schema.key v

/-- What became of one recognized variable of the environment. -/
structure TraceEntry where
  /-- The name of the variable. -/
  name : Text
  /-- The key that it sets. -/
  key : Text
  outcome : Outcome
  deriving DecidableEq, Repr

/-- The event of a variable's hook. -/
def Hook.event (name : Text) : Hook → Event
  | .warn message => .warned name message
  | .notify => .notified name

/-- The events of one recognized variable: its hook, and then the note that it lost. -/
def TraceEntry.events (entry : TraceEntry) (schema : VarSchema) : List Event :=
  (schema.onFound.map (Hook.event entry.name)).toList ++
    if entry.outcome = .superseded then [.superseded entry.name entry.key] else []

/-- What comes of reading an environment. -/
structure Merged where
  /-- The values that win, in the order in which they are written. -/
  listing : Listing
  /-- What became of each recognized variable, in order. -/
  trace : List TraceEntry := []
  /-- How many variables were not recognized. -/
  ignored : Nat := 0
  /-- The events, in order. -/
  events : List Event := []
  deriving DecidableEq, Repr

/-- Reads an environment over the values that stand in `listing`. -/
def Vocabulary.merge (vocabulary : Vocabulary) : Listing → Environment → Merged
  | listing, [] => { listing }
  | listing, (name, value) :: rest =>
    match vocabulary.get? name with
    | none =>
      let m := vocabulary.merge listing rest
      { m with ignored := m.ignored + 1 }
    | some schema =>
      let entry : TraceEntry := ⟨name, schema.key, listing.outcome schema⟩
      let m := vocabulary.merge (listing.settle ⟨value, schema⟩) rest
      { m with trace := entry :: m.trace, events := entry.events schema ++ m.events }

/-- Reads an environment over the defaults, if they are wanted. -/
def Options.merge (options : Options) (env : Environment) : Merged :=
  options.vocabulary.merge options.start env

end UiBootstrap

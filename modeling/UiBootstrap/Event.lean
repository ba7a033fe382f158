import UiBootstrap.Text.Quoted

/-!
# Events

What the library tells the outside world while it works: log entries, and calls of a caller's own
hook. A computation that has events returns them beside its value (`Logged`), in the order in which
they happen.
-/

namespace UiBootstrap

/-- How serious a log entry is. -/
inductive Level where
  | error
  | warn
  | info
  | debug
  | trace
  deriving DecidableEq, Repr

/-- Something the outside world is told. -/
inductive Event where
  /-- A variable was found that carries a warning. -/
  | warned (name message : Text)
  /-- The caller's own hook was called with the name of a variable. -/
  | notified (name : Text)
  /-- A legacy alias lost to the value that was there already. -/
  | superseded (name key : Text)
  /-- A variable was left out because its name or its value is not UTF-8. -/
  | unreadable (name : Text)
  /-- The script was put into a template. -/
  | injected (template : Text)
  /-- A template was left as it is because it has no call region. -/
  | regionMissing (template : Text)
  deriving DecidableEq, Repr

/-- One log entry. -/
structure LogEntry where
  level : Level
  message : Text
  /-- What the entry is about, by name. -/
  fields : List (Text × Text)
  /-- Whether the fields are shown as quoted text. -/
  quotedFields : Bool
  deriving DecidableEq, Repr

/-- The log entry of an event. A call of the caller's own hook has none. -/
def Event.logEntry? : Event → Option LogEntry
  | .warned name message => some ⟨.warn, message, [("variable", name)], true⟩
  | .notified _ => none
  | .superseded name key =>
    some ⟨.debug, "legacy variable superseded by existing value",
      [("variable", name), ("key", key)], true⟩
  | .unreadable name =>
    some ⟨.debug, "skipping non-UTF-8 environment variable", [("variable", name)], false⟩
  | .injected template =>
    some ⟨.info, "Injected Swagger UI configuration", [("template", template)], false⟩
  | .regionMissing template =>
    some ⟨.error,
      "Unable to inject configuration: call region markers not found. " ++
        "Environment-based settings will not take effect.",
      [("template", template)], false⟩

/-- A value, and the events that happened on the way to it. -/
structure Logged (α : Type) where
  value : α
  events : List Event := []
  deriving DecidableEq, Repr

namespace Logged

variable {α β : Type}

/-- Changes the value and keeps the events. -/
def map (f : α → β) (x : Logged α) : Logged β := ⟨f x.value, x.events⟩

/-- One computation after the other: the events of the first come first. -/
def bind (x : Logged α) (f : α → Logged β) : Logged β :=
  ⟨(f x.value).value, x.events ++ (f x.value).events⟩

end Logged

end UiBootstrap

import UiBootstrap.Event
import UiBootstrap.Text.Lines
import UiBootstrap.Environment

/-!
# The log

Which log entries are shown, and how. One variable of the environment describes a filter in a
language of its own, of which a level alone is the simplest case (`LogFilter.ofWord?`); the rest of
that language is left to the library that reads it. Without the variable, or if it is not UTF-8 or
describes no filter, everything from `info` on is shown. The time of an entry and the colours of a
terminal are left out of its text.
-/

namespace UiBootstrap

namespace Level

/-- How serious a level is; the most serious comes first. -/
def rank : Level → Nat
  | .error => 1
  | .warn => 2
  | .info => 3
  | .debug => 4
  | .trace => 5

/-- The word for a level. -/
def label : Level → Text
  | .error => "ERROR"
  | .warn => "WARN"
  | .info => "INFO"
  | .debug => "DEBUG"
  | .trace => "TRACE"

end Level

/-- Which events are shown. -/
abbrev LogFilter := Event → Bool

namespace LogFilter

/-- The filter for what is at least as serious as the level with this rank. -/
def upTo (rank : Nat) : LogFilter := fun event =>
  event.logEntry?.any fun entry => entry.level.rank ≤ rank

/-- Every way to name a level, in lower case, with its rank; rank 0 is that of no level. -/
def names : List (Text × Nat) :=
  [("off", 0), ("error", 1), ("warn", 2), ("info", 3), ("debug", 4), ("trace", 5),
   ("0", 0), ("1", 1), ("2", 2), ("3", 3), ("4", 4), ("5", 5), ("", 1)]

/-- The filter that a text describes if it names a level, in any case, and nothing else. -/
def ofWord? (t : Text) : Option LogFilter := (names.lookup (t.map Char.toLower)).map upTo

/-- The name of the variable that sets the filter. -/
def variableName : Text := "RUST_LOG"

/-- The filter that the variables of a process ask for; `describes?` is what a text describes. -/
def ofVariables (describes? : Text → Option LogFilter) (vs : List RawVariable) : LogFilter :=
  (((vs.lookup (Text.Utf8.encode variableName)).bind Text.Utf8.decode?).bind describes?).getD
    (upTo Level.info.rank)

end LogFilter

/-- One character of a message. Those that steer a terminal are shown by their codes. -/
def messageChar (c : Char) : Text :=
  if c.toNat ∈ [0x07, 0x08, 0x0C, 0x1B, 0x7F] then
    "\\x" ++ (if c.toNat < 0x10 then ['0'] else []) ++ Text.hexadecimal c.toNat
  else if 0x80 ≤ c.toNat ∧ c.toNat ≤ 0x9F then "\\u\x7b" ++ Text.hexadecimal c.toNat ++ "\x7d"
  else [c]

/-- One field of a log entry. -/
def LogEntry.fieldText (entry : LogEntry) (field : Text × Text) : Text :=
  " " ++ field.1 ++ "=" ++ (if entry.quotedFields then Text.quoted field.2 else field.2)

/-- A log entry as it is shown. -/
def LogEntry.text (entry : LogEntry) : Text :=
  entry.level.label ++ " " ++ entry.message.flatMap messageChar ++
    entry.fields.flatMap entry.fieldText

/-- The lines that a filter shows of some events. -/
def LogFilter.lines (filter : LogFilter) (events : List Event) : List Text :=
  ((events.filter filter).filterMap Event.logEntry?).flatMap fun entry => Text.lines entry.text

end UiBootstrap

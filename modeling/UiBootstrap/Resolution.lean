import UiBootstrap.Merge
import UiBootstrap.Fragment
import UiBootstrap.Json.Basic

/-!
# Resolution

How an environment was resolved: the fragment that it leads to, together with the account of what
became of each variable, and the two forms in which that account is printed.
-/

namespace UiBootstrap

/-- A fragment and how it came about. -/
structure Resolution where
  /-- The body of the configuration object. -/
  fragment : Text
  /-- What became of each recognized variable, in order. -/
  trace : List TraceEntry
  /-- How many variables were not recognized. -/
  ignored : Nat
  deriving DecidableEq, Repr

/-- Resolves an environment. -/
def Options.resolve (options : Options) (env : Environment) : Logged Resolution :=
  let m := options.merge env
  ⟨⟨m.listing.fragment, m.trace, m.ignored⟩, m.events⟩

/-- The fragment of an environment. -/
def Options.fragment (options : Options) (env : Environment) : Logged Text :=
  (options.resolve env).map (·.fragment)

/-- The word for an outcome in a report. -/
def Outcome.tag : Outcome → Text
  | .inserted => "inserted"
  | .replaced _ => "replaced"
  | .superseded => "legacy_superseded"

/-- What a report adds to the word for an outcome. -/
def Outcome.details : Outcome → List (Text × Json)
  | .replaced previousDefault => [("previous_base", .bool previousDefault)]
  | _ => []

/-- A trace entry as an object that is tagged with its outcome. -/
def TraceEntry.toJson (entry : TraceEntry) : Json :=
  .object (("outcome", .string entry.outcome.tag) :: ("variable", .string entry.name) ::
    ("key", .string entry.key) :: entry.outcome.details)

/-- What is said of an outcome in the printed trace. -/
def Outcome.remark : Outcome → Text
  | .inserted => "set"
  | .replaced true => "overrides base value"
  | .replaced false => "overrides earlier value"
  | .superseded => "ignored, legacy name loses to existing value"

/-- A trace entry on one line. -/
def TraceEntry.line (entry : TraceEntry) : Text :=
  entry.name ++ " -> " ++ entry.key ++ ": " ++ entry.outcome.remark

namespace Resolution

/-- A resolution as a JSON object. -/
def toJson (r : Resolution) : Json :=
  .object [("fragment", .string r.fragment), ("entries", .array (r.trace.map (·.toJson))),
    ("ignored", .number r.ignored)]

/-- A resolution as JSON text. -/
def jsonText (r : Resolution) : Text := r.toJson.pretty 0

/-- How many variables were not recognized, on one line. -/
def ignoredLine (n : Nat) : Text := Text.decimal n ++ " unrecognized variable(s) ignored"

/-- A resolution for a human reader: the trace, the count, an empty line and the fragment. -/
def humanText (r : Resolution) : Text :=
  Text.unlines (r.trace.map (·.line) ++ [ignoredLine r.ignored, [], r.fragment])

end Resolution

end UiBootstrap

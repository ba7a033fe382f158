import Mathlib.Data.List.Forall2
import UiBootstrap.Resolution
import UiBootstrap.Proofs.Json.Text

/-!
# Reports in JSON are read back

A report is the JSON text of an object. As every JSON text it is read back as that object
(`Json.read?_pretty`), so all that is left is to find the parts of a resolution again, by the names
of the members: the word for an outcome tells which of the members to look for. So nothing of a
resolution is lost in its report, whatever texts stand in it (`Resolution.json_read_back`).
-/

namespace UiBootstrap

variable {entry : TraceEntry} {j : Json}

/-! ## What a report consists of -/

/-- The object for a trace entry. Its members are the word for the outcome, the name and the key;
and for an entry that took the place of a value, whether that was a default. -/
inductive TraceEntry.IsToldBy : TraceEntry → Json → Prop
  | inserted (name key : Text) : IsToldBy ⟨name, key, .inserted⟩
      (.object [("outcome", .string "inserted"), ("variable", .string name), ("key", .string key)])
  | replaced (name key : Text) (previousDefault : Bool) :
      IsToldBy ⟨name, key, .replaced previousDefault⟩
        (.object [("outcome", .string "replaced"), ("variable", .string name), ("key", .string key),
          ("previous_base", .bool previousDefault)])
  | superseded (name key : Text) : IsToldBy ⟨name, key, .superseded⟩
      (.object [("outcome", .string "legacy_superseded"), ("variable", .string name),
        ("key", .string key)])

/-- Every trace entry is told by its object. -/
theorem TraceEntry.isToldBy_toJson (entry : TraceEntry) : entry.IsToldBy entry.toJson := by
  obtain ⟨name, key, outcome⟩ := entry
  cases outcome with
  | inserted => exact .inserted name key
  | replaced previousDefault => exact .replaced name key previousDefault
  | superseded => exact .superseded name key

/-! ## Finding the parts -/

namespace Json

/-- The text of a string. -/
def asText? : Json → Option Text
  | .string t => some t
  | _ => none

/-- The value of a truth value. -/
def asTruth? : Json → Option Bool
  | .bool b => some b
  | _ => none

/-- The value of a number. -/
def asNumber? : Json → Option Nat
  | .number n => some n
  | _ => none

/-- The items of a list. -/
def asItems? : Json → Option (List Json)
  | .array items => some items
  | _ => none

end Json

/-- The outcome that the members of an object tell, by the word for it. -/
def Outcome.ofJson? (j : Json) : Option Outcome := do
  let tag ← (← j.field? "outcome").asText?
  if tag = "inserted" then some .inserted
  else if tag = "replaced" then some (.replaced (← (← j.field? "previous_base").asTruth?))
  else if tag = "legacy_superseded" then some .superseded
  else none

/-- The trace entry that an object tells. -/
def TraceEntry.ofJson? (j : Json) : Option TraceEntry := do
  let name ← (← j.field? "variable").asText?
  let key ← (← j.field? "key").asText?
  return ⟨name, key, ← Outcome.ofJson? j⟩

/-- The resolution that an object tells. -/
def Resolution.ofJson? (j : Json) : Option Resolution := do
  let fragment ← (← j.field? "fragment").asText?
  let entries ← (← j.field? "entries").asItems?
  let ignored ← (← j.field? "ignored").asNumber?
  return ⟨fragment, ← entries.mapM TraceEntry.ofJson?, ignored⟩

/-- A trace entry is found again in the object that tells it. -/
theorem TraceEntry.IsToldBy.ofJson? (h : entry.IsToldBy j) : TraceEntry.ofJson? j = some entry := by
  cases h with
  | inserted name key => rfl
  | replaced name key previousDefault => rfl
  | superseded name key => rfl

namespace Resolution

/-- The entries of a trace are told by the entries of its report. -/
theorem isToldBy_entries (r : Resolution) :
    List.Forall₂ TraceEntry.IsToldBy r.trace (r.trace.map TraceEntry.toJson) :=
  List.forall₂_map_right_iff.2 (List.forall₂_same.2 fun entry _ => entry.isToldBy_toJson)

/-- The trace is found again in the entries of its report. -/
theorem mapM_ofJson?_entries (r : Resolution) :
    (r.trace.map TraceEntry.toJson).mapM TraceEntry.ofJson? = some r.trace := by
  rw [mapM_eq_some_iff, List.map_map]
  exact List.map_congr_left fun entry _ => entry.isToldBy_toJson.ofJson?

/-- A resolution is found again in its object. -/
theorem ofJson?_toJson (r : Resolution) : ofJson? r.toJson = some r := by
  show ((r.trace.map TraceEntry.toJson).mapM TraceEntry.ofJson?).bind
    (fun trace => some (⟨r.fragment, trace, r.ignored⟩ : Resolution)) = some r
  rw [mapM_ofJson?_entries]
  rfl

/-- The text of a report is read as the object. -/
theorem read?_jsonText (r : Resolution) : Json.read? r.jsonText = some r.toJson :=
  Json.read?_pretty 0 r.toJson

/-- Resolutions with the same report are the same. -/
theorem jsonText_injective : Function.Injective jsonText := by
  intro r other h
  have hread : Json.read? r.jsonText = Json.read? other.jsonText := congrArg Json.read? h
  rw [read?_jsonText, read?_jsonText] at hread
  have hfound : ofJson? r.toJson = ofJson? other.toJson := congrArg ofJson? (Option.some.inj hread)
  rw [ofJson?_toJson, ofJson?_toJson] at hfound
  exact Option.some.inj hfound

/-- **A report in JSON is read back.** Its text is read as an object with three members: the
fragment; a list with an object for each trace entry, in their order, that has the word for its
outcome, its name, its key and, for one that took the place of a value, whether that was a default;
and how many variables were ignored. From what is read the resolution is found again, so no other
resolution has the same report. -/
theorem json_read_back (r : Resolution) :
    ∃ entries : List Json,
      Json.read? r.jsonText = some (.object [("fragment", .string r.fragment),
        ("entries", .array entries), ("ignored", .number r.ignored)]) ∧
      List.Forall₂ TraceEntry.IsToldBy r.trace entries ∧
      (Json.read? r.jsonText).bind ofJson? = some r ∧
      ∀ other : Resolution, other.jsonText = r.jsonText → other = r := by
  refine ⟨r.trace.map TraceEntry.toJson, r.read?_jsonText, r.isToldBy_entries, ?_,
    fun other h => jsonText_injective h⟩
  rw [read?_jsonText]
  exact r.ofJson?_toJson

/-- Two entries, and texts with a quote, a backslash, a newline, a control character and a letter
that is not ASCII. -/
theorem json_read_back_escaped :
    let trace : List TraceEntry := [⟨"\"", "\n", .replaced true⟩, ⟨[], "é", .superseded⟩]
    let r : Resolution := ⟨"a: \"\\\n\x01\",", trace, 3⟩
    (Json.read? r.jsonText).bind ofJson? = some r ∧
      ∃ entries : List Json, entries.length = 2 ∧
        Json.read? r.jsonText = some (.object [("fragment", .string "a: \"\\\n\x01\","),
          ("entries", .array entries), ("ignored", .number 3)]) := by
  intro trace r
  obtain ⟨entries, hread, htold, hfound, -⟩ := json_read_back r
  exact ⟨hfound, entries, htold.length_eq.symm, hread⟩

end Resolution

end UiBootstrap

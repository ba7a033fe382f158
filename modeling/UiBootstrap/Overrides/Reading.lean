import UiBootstrap.Overrides.Basic
import UiBootstrap.Toml.Document

/-!
# Reading overrides

From a TOML document to the contents of an overrides file. Keys that are not known are ignored. A
record may also be written as the list of its fields in the order of their declaration, where only
fields with a default of their own may be left out at the end, and a type may be written as a table
with the type's name as its only key and nothing under it.
-/

namespace UiBootstrap

open Toml (Value)

namespace Toml.Value

/-- A text. -/
def asText? : Value → Option Text
  | .string t => some t
  | _ => none

/-- A truth value. -/
def asBool? : Value → Option Bool
  | .boolean b => some b
  | _ => none

/-- Whether a value has nothing in it. -/
def isHollow : Value → Bool
  | .table entries => entries.isEmpty
  | .array items => items.isEmpty
  | _ => false

/-- The type of a value: its name, or a table with its name as the only key. -/
def asType? : Value → Option ValueType
  | .string t => ValueType.ofName? t
  | .table [(name, v)] => if v.isHollow then ValueType.ofName? name else none
  | _ => none

/-- A field that may be missing. -/
def optional? {α : Type} (read : Value → Option α) (missing : α) : Option Value → Option α
  | none => some missing
  | some v => read v

/-- The definition of a variable. -/
def asDefinition? : Value → Option VariableDefinition
  | .table fields => do
    let key ← asText? (← Keyed.get? "name" fields)
    let type ← optional? asType? .string (Keyed.get? "type" fields)
    let legacy ← optional? asBool? false (Keyed.get? "legacy" fields)
    let deprecated ← optional? (fun v => v.asText?.map some) none (Keyed.get? "deprecated" fields)
    return { key, type, legacy, deprecated }
  | .array (key :: type :: legacy :: deprecated :: _) => do
    return { key := ← key.asText?, type := ← type.asType?, legacy := ← legacy.asBool?,
             deprecated := some (← deprecated.asText?) }
  | _ => none

/-- A default with its key. -/
def asSetting? : Value → Option (Text × Setting)
  | .table fields => do
    let key ← asText? (← Keyed.get? "key" fields)
    let value ← asText? (← Keyed.get? "value" fields)
    let type ← optional? asType? .string (Keyed.get? "type" fields)
    return (key, { value, type })
  | .array (key :: value :: rest) => do
    let type ← optional? asType? .string rest.head?
    return (← key.asText?, { value := ← value.asText?, type })
  | _ => none

/-- Definitions of variables by name. -/
def asDefinitions? : Value → Option (Keyed VariableDefinition)
  | .table entries => entries.mapM fun (name, v) => return (name, ← v.asDefinition?)
  | _ => none

/-- A list of defaults. -/
def asSettings? : Value → Option (Keyed Setting)
  | .array items => items.mapM asSetting?
  | _ => none

end Toml.Value

namespace Overrides

/-- The order of variables. -/
def nameLe (v w : Text × VariableDefinition) : Bool := Text.le v.1 w.1

/-- The contents that a document has, if it is of the right shape. -/
def ofToml? (document : Keyed Value) : Option Overrides := do
  let definitions ← Value.optional? Value.asDefinitions? [] (document.get? "variables")
  let defaults ← Value.optional? Value.asSettings? [] (document.get? "base")
  return { definitions := definitions.mergeSort nameLe, defaults }

/-- Refuses contents with a fault. -/
def validate (file : Overrides) : Except OverridesError Overrides :=
  match file.fault? with
  | some fault => .error (.invalid fault)
  | none => .ok file

/-- Reads the text of an overrides file. -/
def parse (document : Text) : Except OverridesError Overrides :=
  match (Toml.parse? document).bind ofToml? with
  | none => .error (.malformed document)
  | some file => file.validate

/-- Reads an overrides file. -/
def load (file : FileState) : Except OverridesError Overrides :=
  match file.readText with
  | .error reason => .error (.unreadable reason)
  | .ok document => parse document

end Overrides

end UiBootstrap

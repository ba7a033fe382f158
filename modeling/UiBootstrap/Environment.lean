import UiBootstrap.Merge
import UiBootstrap.Text.Utf8

/-!
# The process environment

A process has its variables as bytes. Those of which the name and the value are UTF-8 are kept; the
others can neither be recognized nor be written, and are reported by name.
-/

namespace UiBootstrap

/-- A variable of a process: the bytes of its name and of its value. -/
abbrev RawVariable := List UInt8 × List UInt8

namespace RawVariable

/-- The variable as text, if it is UTF-8 throughout. -/
def decode? (v : RawVariable) : Option (Text × Text) := do
  return (← Text.Utf8.decode? v.1, ← Text.Utf8.decode? v.2)

/-- The variables that are UTF-8, in order, with an event for each of the others. -/
def readable : List RawVariable → Logged Environment
  | [] => ⟨[], []⟩
  | v :: rest =>
    let l := readable rest
    match v.decode? with
    | some pair => { l with value := pair :: l.value }
    | none => { l with events := .unreadable (Text.Utf8.decodeLossy v.1) :: l.events }

/-- Variables in the order of the bytes of their names. -/
def sort (vs : List RawVariable) : List RawVariable :=
  vs.mergeSort fun v w => decide (v.1 ≤ w.1)

end RawVariable

end UiBootstrap

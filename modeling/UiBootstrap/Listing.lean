import UiBootstrap.Defaults

/-!
# Listings

The value that wins for each key so far, in the order of the last write: setting a key again moves
it to the end.
-/

namespace UiBootstrap

/-- A value with the schema of the variable or default that gave it. -/
structure Binding where
  value : Text
  schema : VarSchema
  deriving DecidableEq, Repr

/-- The current value of each key, in the order of the last write. -/
structure Listing where
  entries : Keyed Binding := []
  deriving DecidableEq, Repr

namespace Listing

/-- The listing of the defaults, in their order. -/
def ofDefaults (defaults : Defaults) : Listing :=
  ⟨defaults.entries.map fun (key, s) => (key, ⟨s.value, s.schema key⟩)⟩

/-- The value of a key. -/
def get? (listing : Listing) (key : Text) : Option Binding := listing.entries.get? key

/-- Drops a key and hands out the value it had. -/
def remove (listing : Listing) (key : Text) : Option Binding × Listing :=
  let (taken, left) := listing.entries.pop key
  (taken, ⟨left⟩)

/-- Sets a key at the end, dropping the value it had. -/
def insert (listing : Listing) (key : Text) (v : Binding) : Listing :=
  ⟨(listing.remove key).2.entries ++ [(key, v)]⟩

/-- How many keys have a value. -/
def size (listing : Listing) : Nat := listing.entries.length

/-- Whether no key has a value. -/
def isEmpty (listing : Listing) : Bool := listing.entries.isEmpty

/-- One use of the listing. -/
inductive Access where
  | insert (key : Text) (v : Binding)
  | remove (key : Text)
  | get (key : Text)
  deriving DecidableEq, Repr

/-- The listing after one use. -/
def access (listing : Listing) : Access → Listing
  | .insert key v => listing.insert key v
  | .remove key => (listing.remove key).2
  | .get _ => listing

/-- The value that one use hands out: the one looked for, or the one removed. -/
def Access.result (listing : Listing) : Access → Option Binding
  | .insert _ _ => none
  | .remove key => (listing.remove key).1
  | .get key => listing.get? key

end Listing

end UiBootstrap

import UiBootstrap.Merge
import UiBootstrap.File

/-!
# Overrides

An overrides file defines variables and defaults. Laid over the built-in ones it replaces or adds
variables by name, and sets defaults by key: in their place if they are there, at the end if they
are new. A file in which a variable, a variable's key or a default's key is empty is refused.
-/

namespace UiBootstrap

/-- The definition of a variable. -/
structure VariableDefinition where
  /-- The key that the variable sets. -/
  key : Text
  type : ValueType := .string
  /-- Whether it is a legacy alias. -/
  legacy : Bool := false
  /-- The warning logged whenever the variable is present. -/
  deprecated : Option Text := none
  deriving DecidableEq, Repr

/-- The schema that a definition stands for. -/
def VariableDefinition.schema (v : VariableDefinition) : VarSchema :=
  { key := v.key, type := v.type, legacy := v.legacy, onFound := v.deprecated.map .warn }

/-- The contents of an overrides file. -/
structure Overrides where
  /-- The variables by name, in the order of their names. -/
  definitions : Keyed VariableDefinition := []
  /-- The defaults by key, in the order of the file; a key may be repeated. -/
  defaults : Keyed Setting := []
  deriving DecidableEq, Repr

/-- What is wrong with the contents of an overrides file. -/
inductive OverridesFault where
  /-- A variable has the empty name. -/
  | emptyVariable
  /-- A variable sets the empty key. -/
  | emptyKey (name : Text)
  /-- A default, counted from zero, has the empty key. -/
  | emptyDefaultKey (position : Nat)
  deriving DecidableEq, Repr

/-- The wording of a fault. -/
def OverridesFault.message : OverridesFault → Text
  | .emptyVariable => "variable names must not be empty"
  | .emptyKey name => "variable " ++ name ++ " has an empty name"
  | .emptyDefaultKey position => "base entry " ++ Text.decimal position ++ " has an empty key"

/-- Why an overrides file cannot be used. -/
inductive OverridesError where
  /-- It cannot be read. -/
  | unreadable (reason : ReadError)
  /-- This is no TOML document, or one of another shape. -/
  | malformed (document : Text)
  /-- Something in it is empty that must not be. -/
  | invalid (fault : OverridesFault)
  deriving DecidableEq, Repr

/-- The wording of an error; `complaint` is what the TOML library says of a malformed document. -/
def OverridesError.message (complaint : Text → Text) : OverridesError → Text
  | .unreadable reason => "Failed to read config file: " ++ reason.message
  | .malformed document => "Failed to parse TOML: " ++ complaint document
  | .invalid fault => "Validation error: " ++ fault.message

namespace Overrides

/-- What is wrong with one variable. -/
def variableFault? (name : Text) (v : VariableDefinition) : Option OverridesFault :=
  if name.isEmpty then some .emptyVariable
  else if v.key.isEmpty then some (.emptyKey name)
  else none

/-- What is wrong with the contents of a file: the first fault of a variable, in the order of the
names, or else the first of a default. -/
def fault? (file : Overrides) : Option OverridesFault :=
  match file.definitions.findSome? fun (name, v) => variableFault? name v with
  | some fault => some fault
  | none => (file.defaults.findIdx? fun (key, _) => key.isEmpty).map .emptyDefaultKey

/-- Lays a file over the recognized variables and the defaults. -/
def apply (file : Overrides) (options : Options) : Options :=
  { options with
    vocabulary := file.definitions.foldl (fun vocabulary (name, v) =>
      vocabulary.insert name v.schema) options.vocabulary
    defaults := file.defaults.foldl (fun defaults (key, s) => defaults.insert key s)
      options.defaults }

end Overrides

end UiBootstrap

import UiBootstrap.Text.Quoted

/-!
# Variable schemas

What is known of one environment variable: the key of the configuration that it sets, the type its
value is written in, whether it is a legacy alias, and what happens when it is found.
-/

namespace UiBootstrap

/-- The declared type of a value. Only `string` changes how a value is written: it is quoted. -/
inductive ValueType where
  | string
  | boolean
  | number
  | array
  | object
  | function
  deriving DecidableEq, Repr

namespace ValueType

/-- Every type. -/
def all : List ValueType := [.string, .boolean, .number, .array, .object, .function]

/-- The name of a type, as an overrides file writes it. -/
def name : ValueType → Text
  | .string => "string"
  | .boolean => "boolean"
  | .number => "number"
  | .array => "array"
  | .object => "object"
  | .function => "function"

/-- The name of a type in a diagnostic. -/
def label : ValueType → Text
  | .string => "String"
  | .boolean => "Boolean"
  | .number => "Number"
  | .array => "Array"
  | .object => "Object"
  | .function => "Function"

/-- The type with a given name; names are exact. -/
def ofName? (t : Text) : Option ValueType := all.find? fun type => type.name = t

theorem ofName?_name (type : ValueType) : ofName? type.name = some type := by
  cases type <;> decide

end ValueType

/-- What happens each time a variable is found in the environment, whether or not it wins. -/
inductive Hook where
  /-- A warning with this message is logged. -/
  | warn (message : Text)
  /-- The caller is told the variable's name. -/
  | notify
  deriving DecidableEq, Repr

/-- The definition of one recognized variable. -/
structure VarSchema where
  /-- The key of the configuration that the variable sets. -/
  key : Text
  /-- The type its value is written in. -/
  type : ValueType := .string
  /-- Whether it is a legacy alias, which loses to a value that is there already, defaults apart. -/
  legacy : Bool := false
  /-- Whether the value is a default, which loses to any variable. -/
  isDefault : Bool := false
  /-- What happens when the variable is found. -/
  onFound : Option Hook := none
  deriving DecidableEq, Repr

namespace VarSchema

/-- The schema of an ordinary variable. -/
def ofType (key : Text) (type : ValueType) : VarSchema := { key, type }

/-- The schema of a legacy alias. -/
def asLegacy (schema : VarSchema) : VarSchema := { schema with legacy := true }

/-- The schema of a variable with a warning attached, in place of any other hook. -/
def warning (message : Text) (schema : VarSchema) : VarSchema :=
  { schema with onFound := some (.warn message) }

/-- Whether values are written in quotes. -/
def isString (schema : VarSchema) : Bool := schema.type = .string

/-- The word for a truth value. -/
def truth (b : Bool) : Text := if b then "true" else "false"

/-- A schema on one line, for a diagnostic. -/
def describe (schema : VarSchema) : Text :=
  "VariableSchema \x7b name: " ++ Text.quoted schema.key ++
    ", var_type: " ++ schema.type.label ++
    ", legacy: " ++ truth schema.legacy ++
    ", base: " ++ truth schema.isDefault ++
    ", on_found: " ++ truth schema.onFound.isSome ++ " \x7d"

end VarSchema

end UiBootstrap

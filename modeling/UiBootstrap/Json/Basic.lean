import UiBootstrap.Text.Basic

/-!
# JSON text

Values of JSON, as far as a report needs them, and their text laid out over several lines: members
and items stand on lines of their own, two spaces deeper than what holds them, and an empty list or
object takes no line. In a string a quote, a backslash and the control characters below the space
are escaped, and nothing else is.
-/

namespace UiBootstrap

/-- A JSON value; numbers are the natural ones. -/
inductive Json where
  | bool (b : Bool)
  | number (n : Nat)
  | string (t : Text)
  | array (items : List Json)
  | object (members : List (Text × Json))

namespace Json

/-- One character of a string. -/
def escapeChar (c : Char) : Text :=
  if c = '"' then "\\\""
  else if c = '\\' then "\\\\"
  else if c = '\x08' then "\\b"
  else if c = '\x0c' then "\\f"
  else if c = '\n' then "\\n"
  else if c = '\r' then "\\r"
  else if c = '\t' then "\\t"
  else if c.toNat < 0x10 then "\\u000" ++ Text.hexadecimal c.toNat
  else if c.toNat < 0x20 then "\\u00" ++ Text.hexadecimal c.toNat
  else [c]

/-- A string. -/
def quote (t : Text) : Text := '"' :: t.flatMap escapeChar ++ ['"']

/-- The start of a line at a depth. -/
def newline (depth : Nat) : Text := '\n' :: List.replicate (2 * depth) ' '

mutual

/-- The text of a value that stands at a depth. -/
def pretty (depth : Nat) : Json → Text
  | .bool b => if b then "true" else "false"
  | .number n => Text.decimal n
  | .string t => quote t
  | .array [] => "[]"
  | .array (item :: items) =>
    "[" ++ newline (depth + 1) ++ pretty (depth + 1) item ++ prettyItems (depth + 1) items ++
      newline depth ++ "]"
  | .object [] => "\x7b\x7d"
  | .object ((key, value) :: members) =>
    "\x7b" ++ newline (depth + 1) ++ quote key ++ ": " ++ pretty (depth + 1) value ++
      prettyMembers (depth + 1) members ++ newline depth ++ "\x7d"

/-- The further items of a list at a depth. -/
def prettyItems (depth : Nat) : List Json → Text
  | [] => []
  | item :: items => "," ++ newline depth ++ pretty depth item ++ prettyItems depth items

/-- The further members of an object at a depth. -/
def prettyMembers (depth : Nat) : List (Text × Json) → Text
  | [] => []
  | (key, value) :: members =>
    "," ++ newline depth ++ quote key ++ ": " ++ pretty depth value ++ prettyMembers depth members

end

end Json

end UiBootstrap

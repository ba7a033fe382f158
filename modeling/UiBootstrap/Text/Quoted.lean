import UiBootstrap.Text.Unprintable

/-!
# Quoted text

The form in which a diagnostic shows a text: between double quotes, with quotes and backslashes
behind a backslash, the common control characters by letter, and any other character without a
glyph by its code point, as in `\u{7f}`.
-/

namespace UiBootstrap.Text

/-- One character of a quoted text. -/
def quoteChar (c : Char) : Text :=
  if c = '"' then "\\\""
  else if c = '\\' then "\\\\"
  else if c = '\n' then "\\n"
  else if c = '\r' then "\\r"
  else if c = '\t' then "\\t"
  else if c.toNat = 0 then "\\0"
  else if isUnprintable c then "\\u\x7b" ++ hexadecimal c.toNat ++ "\x7d"
  else [c]

/-- A text between double quotes, every character of it visible. -/
def quoted (t : Text) : Text := '"' :: t.flatMap quoteChar ++ ['"']

end UiBootstrap.Text

import UiBootstrap.Json.Basic
import UiBootstrap.Toml.Literal

/-!
# Reading JSON

From a JSON text to its value. White space may stand around every part, a string may have any of
the escapes, and lists and objects may be laid out in any way. What has no place among the values
here is refused: `null`, and the numbers that are negative or have a fraction or an exponent. So is
half a surrogate pair, which no character is.

The readers are put together like those of TOML, which has the same parts: characters up to a
closing quote, and items with commas between them.
-/

namespace UiBootstrap.Json

open Toml (Reader char? shortString? separated? isHexDigit numeral)

/-- Whether a character is white space between the parts of a text. -/
def isSpace (c : Char) : Bool := c = ' ' || c = '\t' || c = '\n' || c = '\r'

/-- A text without the white space at its front. -/
def skipSpace (cs : Text) : Text := cs.dropWhile isSpace

/-! ## Strings -/

/-- The escapes that are a letter or a sign behind a backslash. -/
def shortEscapes : List (Char × Char) :=
  [('"', '"'), ('\\', '\\'), ('/', '/'), ('b', '\x08'), ('f', '\x0c'), ('n', '\n'), ('r', '\r'),
   ('t', '\t')]

/-- Takes a unit of sixteen bits, as four hexadecimal digits, off the front of a text. -/
def unit? (cs : Text) : Option (Nat × Text) :=
  let digits := cs.take 4
  if digits.length = 4 ∧ digits.all isHexDigit then some (numeral 16 digits, cs.drop 4) else none

/-- The character of a surrogate pair of which the first unit has been read. -/
def lowSurrogate? (high : Nat) : Reader Char
  | '\\' :: 'u' :: cs => do
    let (low, rest) ← unit? cs
    if 0xDC00 ≤ low ∧ low < 0xE000 then
      some (Char.ofNat (0x10000 + (high - 0xD800) * 0x400 + (low - 0xDC00)), rest)
    else none
  | _ => none

/-- The character with a code of one unit, or of two if it is a surrogate pair. -/
def codeEscape? (cs : Text) : Option (Char × Text) := do
  let (unit, rest) ← unit? cs
  if 0xD800 ≤ unit ∧ unit < 0xDC00 then lowSurrogate? unit rest
  else if unit.isValidChar then some (Char.ofNat unit, rest)
  else none

/-- The character that an escape stands for, read behind the backslash. -/
def escape? : Reader Char
  | [] => none
  | c :: rest => if c = 'u' then codeEscape? rest else (shortEscapes.lookup c).map (·, rest)

/-- One character of a string. -/
def stringChar? : Reader Char
  | [] => none
  | c :: rest =>
    if c = '\\' then escape? rest
    else if c = '"' || c.toNat < 0x20 then none
    else some (c, rest)

/-- A string, read behind its opening quote. -/
def string? (cs : Text) : Option (Text × Text) := shortString? stringChar? '"' cs

/-! ## Words -/

/-- Whether a character may stand in a number. -/
def isNumberChar (c : Char) : Bool :=
  c.isDigit || c = '+' || c = '-' || c = '.' || c = 'e' || c = 'E'

/-- The natural number that a word writes. A zero in front has to be all of it. -/
def natural? : Text → Option Nat
  | [] => none
  | '0' :: _ :: _ => none
  | w => if w.all Char.isDigit then some (Nat.ofDigitChars 10 w 0) else none

/-- A natural number. The word is read whole, so that no number with a fraction passes for one. -/
def number? (cs : Text) : Option (Json × Text) :=
  (natural? (cs.takeWhile isNumberChar)).map fun n => (.number n, cs.dropWhile isNumberChar)

/-- A value that is written without quotes, brackets or braces. -/
def word? (cs : Text) : Option (Json × Text) :=
  match List.isPrefixOf? ("true" : Text) cs, List.isPrefixOf? ("false" : Text) cs with
  | some rest, _ => some (.bool true, rest)
  | none, some rest => some (.bool false, rest)
  | none, none => number? cs

/-! ## Values -/

/-- One item with the white space around it. -/
def padded? {α : Type} (item : Reader α) (cs : Text) : Option (α × Text) :=
  (item (skipSpace cs)).map fun (a, rest) => (a, skipSpace rest)

/-- Items with commas between them, read behind an opening bracket up to the closing one. -/
def items? {α : Type} (item : Reader α) (close : Char) (cs : Text) : Option (List α × Text) :=
  match char? close (skipSpace cs) with
  | some rest => some ([], rest)
  | none => do
    let (items, rest) ← separated? ',' (padded? item) cs
    return (items, ← char? close rest)

/-- One member of an object. -/
def member? (value : Reader Json) : Reader (Text × Json)
  | '"' :: cs => do
    let (key, rest) ← string? cs
    let rest ← char? ':' (skipSpace rest)
    let (v, rest) ← value (skipSpace rest)
    return ((key, v), rest)
  | _ => none

/-- A value in which lists and objects nest less than `depth` deep. -/
def valueWithin? : Nat → Reader Json
  | 0, _ => none
  | _ + 1, [] => none
  | depth + 1, c :: cs =>
    if c = '"' then (string? cs).map fun (t, rest) => (.string t, rest)
    else if c = '[' then
      (items? (valueWithin? depth) ']' cs).map fun (items, rest) => (.array items, rest)
    else if c = '\x7b' then
      (items? (member? (valueWithin? depth)) '\x7d' cs).map fun (members, rest) =>
        (.object members, rest)
    else word? (c :: cs)

/-- The value of a JSON text. Whatever nests takes a character at least. -/
def read? (text : Text) : Option Json := do
  let (value, rest) ← padded? (valueWithin? text.length) text
  if rest.isEmpty then some value else none

/-- The value of a member of an object, by its name. -/
def field? (name : Text) : Json → Option Json
  | .object members => members.lookup name
  | _ => none

end UiBootstrap.Json

import UiBootstrap.Text.Basic

/-!
# Readers

A reader takes something off the front of a text and hands back the rest. The readers of TOML are
put together from the few below. Spacing is made of spaces and tabs; a newline is a line feed, with
or without a carriage return before it; a carriage return alone is refused everywhere.
-/

namespace UiBootstrap.Toml

/-- Takes a value off the front of a text, or refuses it. -/
abbrev Reader (α : Type) := Text → Option (α × Text)

/-- Takes at most `n` items off the front of a text. -/
def upTo {α : Type} (item : Reader α) : Nat → Text → List α × Text
  | 0, cs => ([], cs)
  | n + 1, cs =>
    match item cs with
    | none => ([], cs)
    | some (a, rest) =>
      match upTo item n rest with
      | (more, rest) => (a :: more, rest)

/-- Takes items off the front of a text while there are any. Every item takes a character at least,
so there are no more items than characters. -/
def many {α : Type} (item : Reader α) (cs : Text) : List α × Text := upTo item cs.length cs

/-- Takes one given character off the front of a text. -/
def char? (c : Char) : Text → Option Text
  | [] => none
  | d :: rest => if d = c then some rest else none

/-- Whether a character is spacing: a space or a tab. -/
def isSpacing (c : Char) : Bool := c = ' ' || c = '\t'

/-- A text without the spacing at its front. -/
def skipSpacing (cs : Text) : Text := cs.dropWhile isSpacing

/-- Takes a newline off the front of a text. -/
def newline? : Text → Option Text
  | '\n' :: rest => some rest
  | '\r' :: '\n' :: rest => some rest
  | _ => none

/-- Whether a character may stand in a comment or, quotes and backslashes apart, in a string: it is
a tab or no control character of ASCII. -/
def isContent (c : Char) : Bool := c = '\t' || (0x20 ≤ c.toNat && c.toNat ≠ 0x7F)

/-- A text without the comment at its front, if there is one. -/
def skipComment : Text → Text
  | '#' :: rest => rest.dropWhile isContent
  | cs => cs

/-- Takes the end of a line off the front of a text: spacing, a comment, and a newline or the end of
the text. -/
def lineEnd? (cs : Text) : Option Text :=
  match skipComment (skipSpacing cs) with
  | [] => some []
  | rest => newline? rest

/-- A text without the spacing, newlines and comments at its front; `inComment` says whether it
starts inside a comment. -/
def skipFiller (inComment : Bool) : Text → Text
  | [] => []
  | '\r' :: '\n' :: rest => skipFiller false rest
  | c :: rest =>
    if c = '\n' then skipFiller false rest
    else if inComment && isContent c then skipFiller true rest
    else if isSpacing c then skipFiller false rest
    else if c = '#' then skipFiller true rest
    else c :: rest

/-- A text without the spacing and newlines at its front. -/
def skipBreaks : Text → Text
  | [] => []
  | '\r' :: '\n' :: rest => skipBreaks rest
  | c :: rest => if c = '\n' || isSpacing c then skipBreaks rest else c :: rest

/-- The value of a digit in any base up to sixteen. -/
def digitValue (c : Char) : Nat :=
  if c.isDigit then c.toNat - '0'.toNat
  else if 'a' ≤ c ∧ c ≤ 'f' then c.toNat - 'a'.toNat + 10
  else c.toNat - 'A'.toNat + 10

/-- Whether a character is a hexadecimal digit. -/
def isHexDigit (c : Char) : Bool :=
  c.isDigit || ('a' ≤ c && c ≤ 'f') || ('A' ≤ c && c ≤ 'F')

/-- The number that a run of digits writes in a base. -/
def numeral (base : Nat) (digits : Text) : Nat :=
  digits.foldl (fun n c => n * base + digitValue c) 0

end UiBootstrap.Toml

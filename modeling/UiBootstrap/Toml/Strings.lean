import UiBootstrap.Toml.Reader

/-!
# Strings

The four forms of a string. Basic strings stand between double quotes and have escapes, literal
strings stand between apostrophes and have none; either may also stand between three quotes, and
then run over several lines. In those a run of up to two quotes is content, and the closing run may
have up to two more quotes in front.
-/

namespace UiBootstrap.Toml

/-- The escapes that are a letter or a sign behind a backslash. -/
def shortEscapes : List (Char × Char) :=
  [('b', '\x08'), ('t', '\t'), ('n', '\n'), ('f', '\x0c'), ('r', '\r'), ('"', '"'), ('\\', '\\')]

/-- The character with a code point of exactly `n` hexadecimal digits. -/
def codePoint? (n : Nat) (cs : Text) : Option (Char × Text) :=
  let digits := cs.take n
  let code := numeral 16 digits
  if digits.length = n ∧ digits.all isHexDigit ∧ code.isValidChar then
    some (Char.ofNat code, cs.drop n)
  else none

/-- The character that an escape stands for, read behind the backslash. -/
def escape? : Reader Char
  | [] => none
  | c :: rest =>
    if c = 'u' then codePoint? 4 rest
    else if c = 'U' then codePoint? 8 rest
    else (shortEscapes.lookup c).map (·, rest)

/-- One character of a basic string. -/
def basicChar? : Reader Char
  | [] => none
  | c :: rest =>
    if c = '\\' then escape? rest
    else if isContent c && c ≠ '"' then some (c, rest)
    else none

/-- One character of a literal string. -/
def literalChar? : Reader Char
  | [] => none
  | c :: rest => if isContent c && c ≠ '\'' then some (c, rest) else none

/-- A string on one line, read behind its opening quote. -/
def shortString? (item : Reader Char) (quote : Char) (cs : Text) : Option (Text × Text) :=
  match many item cs with
  | (t, rest) => (char? quote rest).map (t, ·)

/-- The break of a long line: a backslash at its end takes the newline away and all spacing and
newlines behind it. Read behind the backslash. -/
def foldedBreak? (cs : Text) : Option Text := (newline? (skipSpacing cs)).map skipBreaks

/-- Whether a text starts with three of these quotes. -/
def startsLong (quote : Char) : Text → Bool
  | a :: b :: c :: _ => a = quote && b = quote && c = quote
  | _ => false

/-- A piece of a string over several lines: a quote that does not close it, a newline, a folded
break, or a character. -/
def longPiece? (item : Reader Char) (quote : Char) (folds : Bool) : Reader Text
  | [] => none
  | c :: rest =>
    if c = quote then if startsLong quote (c :: rest) then none else some ([quote], rest)
    else
      match newline? (c :: rest) with
      | some rest' => some (['\n'], rest')
      | none =>
        match if folds && c = '\\' then foldedBreak? rest else none with
        | some rest' => some ([], rest')
        | none => (item (c :: rest)).map fun (d, rest') => ([d], rest')

/-- A string over several lines, read behind its opening quotes. A newline right behind them is
dropped. -/
def longString? (item : Reader Char) (quote : Char) (folds : Bool) (cs : Text) :
    Option (Text × Text) :=
  match many (longPiece? item quote folds) ((newline? cs).getD cs) with
  | (pieces, rest) =>
    let run := rest.takeWhile (· = quote)
    if 3 ≤ run.length ∧ run.length ≤ 5 then
      some (pieces.flatten ++ run.drop 3, rest.drop run.length)
    else none

/-- A string on one line with its quotes. -/
def quoted? : Reader Text
  | '"' :: rest => shortString? basicChar? '"' rest
  | '\'' :: rest => shortString? literalChar? '\'' rest
  | _ => none

/-- A string of any form. -/
def string? (cs : Text) : Option (Text × Text) :=
  if startsLong '"' cs then longString? basicChar? '"' true (cs.drop 3)
  else if startsLong '\'' cs then longString? literalChar? '\'' false (cs.drop 3)
  else quoted? cs

end UiBootstrap.Toml

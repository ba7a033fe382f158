import UiBootstrap.Toml.Reader
import UiBootstrap.Toml.Value

/-!
# Truth values, numbers and dates

These are written as one word: a run of letters, digits and the signs `+ - _ . :`. No such
character may follow a value, so the word is read whole and then classified. The one value of two
words is a date and a time with a space between them.

An integer has to fit 64 bits with a sign. A number with a fraction that is too great for a double
is refused, unless it is negative.
-/

namespace UiBootstrap.Toml

/-- Whether a character belongs to a word. -/
def isWordChar (c : Char) : Bool :=
  c.isAlphanum || c = '+' || c = '-' || c = '_' || c = '.' || c = ':'

/-- The digits of a run in which single underscores may stand between two digits. -/
def digitRun? (isDigit : Char → Bool) : Text → Option Text
  | [] => none
  | [c] => if isDigit c then some [c] else none
  | c :: d :: rest =>
    if isDigit c then
      if d = '_' then (digitRun? isDigit rest).map (c :: ·)
      else (digitRun? isDigit (d :: rest)).map (c :: ·)
    else none

/-- The digits of a decimal integer without its sign. A zero in front has to be all of it. -/
def decimalDigits? (w : Text) : Option Text :=
  match digitRun? Char.isDigit w with
  | some ('0' :: _ :: _) => none
  | digits => digits

/-- Whether a word is negative, and the word without its sign. -/
def splitSign : Text → Bool × Text
  | '-' :: rest => (true, rest)
  | '+' :: rest => (false, rest)
  | w => (false, w)

/-- The greatest integer. -/
def maxInteger : Nat := Nat.pow 2 63 - 1

/-- An integer in a base that its second character names. -/
def basedInteger? (base : Nat) (isDigit : Char → Bool) (w : Text) : Option Int := do
  let n := numeral base (← digitRun? isDigit w)
  if n ≤ maxInteger then some n else none

/-- The integer that a word writes. -/
def integer? : Text → Option Int
  | '0' :: 'x' :: rest => basedInteger? 16 isHexDigit rest
  | '0' :: 'o' :: rest => basedInteger? 8 (fun c => '0' ≤ c && c ≤ '7') rest
  | '0' :: 'b' :: rest => basedInteger? 2 (fun c => c = '0' || c = '1') rest
  | w => do
    let (negative, w) := splitSign w
    let n := numeral 10 (← decimalDigits? w)
    if negative then if n ≤ maxInteger + 1 then some (-n) else none
    else if n ≤ maxInteger then some n else none

/-- Whether `mantissa * 10 ^ exponent` is too great for a double: it reaches the middle between the
greatest double and the next power of two. Far from there the number of digits decides. -/
def overflows (mantissa : Nat) (exponent : Int) : Bool :=
  let limit := Nat.pow 2 1024 - Nat.pow 2 970
  let digits : Int := (Text.decimal mantissa).length
  if mantissa = 0 then false
  else if 320 < exponent + digits then true
  else if exponent + digits < 300 then false
  else if 0 ≤ exponent then limit ≤ mantissa * Nat.pow 10 exponent.toNat
  else limit * Nat.pow 10 (-exponent).toNat ≤ mantissa

/-- The exponent of a number, read from its `e` on; without one it is zero. -/
def exponent? : Text → Option Int
  | [] => some 0
  | c :: rest =>
    if c = 'e' || c = 'E' then do
      let (negative, w) := splitSign rest
      let n := numeral 10 (← digitRun? Char.isDigit w)
      some (if negative then -n else n)
    else none

/-- Whether a character may stand in a run of digits. -/
def isRunChar (c : Char) : Bool := c.isDigit || c = '_'

/-- Whether a word is a number with a fraction or an exponent, or one of the special ones. -/
def isFloat (w : Text) : Bool :=
  let (negative, w) := splitSign w
  let whole := w.takeWhile isRunChar
  let rest := w.dropWhile isRunChar
  let number : Option (Text × Text × Int) := do
    let whole ← decimalDigits? whole
    match rest with
    | '.' :: rest =>
      some (whole, ← digitRun? Char.isDigit (rest.takeWhile isRunChar),
        ← exponent? (rest.dropWhile isRunChar))
    | [] => none
    | rest => some (whole, [], ← exponent? rest)
  if w = "inf" || w = "nan" then true
  else
    match number with
    | none => false
    | some (whole, fraction, exponent) =>
      negative || !overflows (numeral 10 (whole ++ fraction)) (exponent - fraction.length)

/-- A number of exactly `n` digits between two bounds. -/
def number? (n low high : Nat) (cs : Text) : Option (Nat × Text) :=
  let digits := cs.take n
  let value := numeral 10 digits
  if digits.length = n ∧ digits.all Char.isDigit ∧ low ≤ value ∧ value ≤ high then
    some (value, cs.drop n)
  else none

/-- How many days a month has. -/
def daysIn (year month : Nat) : Nat :=
  if month = 2 then
    if year % 4 = 0 ∧ (year % 100 ≠ 0 ∨ year % 400 = 0) then 29 else 28
  else if month = 4 ∨ month = 6 ∨ month = 9 ∨ month = 11 then 30
  else 31

/-- Takes a date off the front of a word. -/
def date? (cs : Text) : Option Text := do
  let (year, cs) ← number? 4 0 9999 cs
  let cs ← char? '-' cs
  let (month, cs) ← number? 2 1 12 cs
  let cs ← char? '-' cs
  let (_, cs) ← number? 2 1 (daysIn year month) cs
  return cs

/-- A word without the fraction of a second at its front. -/
def skipFraction : Text → Text
  | '.' :: c :: rest => if c.isDigit then rest.dropWhile Char.isDigit else '.' :: c :: rest
  | w => w

/-- Takes a time of day off the front of a word. A minute may have a sixty-first second. -/
def time? (cs : Text) : Option Text := do
  let (_, cs) ← number? 2 0 23 cs
  let cs ← char? ':' cs
  let (_, cs) ← number? 2 0 59 cs
  let cs ← char? ':' cs
  let (_, cs) ← number? 2 0 60 cs
  return skipFraction cs

/-- Whether a word is nothing or the offset of a time from universal time. -/
def isOffset : Text → Bool
  | [] => true
  | c :: rest =>
    if c = 'Z' || c = 'z' then rest.isEmpty
    else if c = '+' || c = '-' then
      let minutes : Option Text := do
        let (_, cs) ← number? 2 0 23 rest
        let cs ← char? ':' cs
        let (_, cs) ← number? 2 0 59 cs
        return cs
      minutes = some []
    else false

/-- Whether a word is a time of day behind a date, with or without an offset. -/
def isTimeAfterDate (w : Text) : Bool := (time? w).any isOffset

/-- Whether a word is a date, a time of day, or a date and a time with a `T` between them. -/
def isDateTime (w : Text) : Bool :=
  time? w = some [] ||
    match date? w with
    | some [] => true
    | some (c :: rest) => (c = 'T' || c = 't') && isTimeAfterDate rest
    | none => false

/-- The value of a word. -/
def word? (w : Text) : Option Value :=
  if w = "true" then some (.boolean true)
  else if w = "false" then some (.boolean false)
  else
    match integer? w with
    | some n => some (.integer n)
    | none =>
      if isFloat w then some (.float w)
      else if isDateTime w then some (.dateTime w)
      else none

/-- A value that is written without quotes or brackets. -/
def scalar? (cs : Text) : Option (Value × Text) :=
  let w := cs.takeWhile isWordChar
  let rest := cs.dropWhile isWordChar
  match (if date? w = some [] then char? ' ' rest else none) with
  | none => (word? w).map (·, rest)
  | some rest' =>
    let w' := rest'.takeWhile isWordChar
    if w'.isEmpty then some (.dateTime w, rest)
    else if isTimeAfterDate w' then
      some (.dateTime (w ++ " " ++ w'), rest'.dropWhile isWordChar)
    else none

end UiBootstrap.Toml

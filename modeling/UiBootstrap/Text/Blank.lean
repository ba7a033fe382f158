import UiBootstrap.Text.Basic

/-!
# Blank characters

The characters with the Unicode property White_Space, and trimming by them.
-/

namespace UiBootstrap.Text

/-- The characters with the Unicode property White_Space, as ranges of code points. -/
def blankRanges : List (Nat × Nat) :=
  [(0x9, 0xD), (0x20, 0x20), (0x85, 0x85), (0xA0, 0xA0), (0x1680, 0x1680), (0x2000, 0x200A),
   (0x2028, 0x2029), (0x202F, 0x202F), (0x205F, 0x205F), (0x3000, 0x3000)]

/-- Whether a character is white space. -/
def isBlank (c : Char) : Bool :=
  blankRanges.any fun (low, high) => low ≤ c.toNat && c.toNat ≤ high

/-- A text without the white space at its front. -/
def trimFront (t : Text) : Text := t.dropWhile isBlank

/-- A text without the white space at either end. -/
def trim (t : Text) : Text := (trimFront (trimFront t).reverse).reverse

/-- Whether a text is nothing but white space. -/
def allBlank (t : Text) : Bool := t.all isBlank

end UiBootstrap.Text

import UiBootstrap.Text.Lines

/-!
# Indentation

A margin is put in front of every line from a given one on. Lines are counted from 1, and counting
from 0 means the same as counting from 1. Empty lines get the margin too, so the margin can be
taken away again.
-/

namespace UiBootstrap.Text

/-- Puts `margin` in front of every line but the first `kept`. -/
def indentLines (margin : Text) (kept : Nat) (ls : List Text) : List Text :=
  ls.take kept ++ (ls.drop kept).map (margin ++ ·)

/-- Puts `margin` in front of every line numbered `fromLine` or higher, counting from 1. -/
def withMargin (margin : Text) (fromLine : Nat) (t : Text) : Text :=
  unlines (indentLines margin (fromLine - 1) (lines t))

/-- Counting from 0, the margin stands in front of every line. -/
theorem withMargin_zero (margin t : Text) :
    withMargin margin 0 t = unlines ((lines t).map (margin ++ ·)) := rfl

/-- Indents by `width` spaces. -/
def indent (width fromLine : Nat) (t : Text) : Text :=
  withMargin (List.replicate width ' ') fromLine t

end UiBootstrap.Text

import UiBootstrap.Text.Basic

/-!
# Lines

A text read as its lines. A newline separates two lines and belongs to neither, so a text with `n`
newlines has `n + 1` lines and the empty text has one, empty, line. `unlines_lines` says that
nothing is lost; `lines_unlines` that lines without newlines are read back.
-/

namespace UiBootstrap.Text

/-- Puts a character in front of the first line. -/
def consFirst (c : Char) : List Text → List Text
  | [] => [[c]]
  | l :: ls => (c :: l) :: ls

/-- The lines of a text: what stands between its newlines. -/
def lines : Text → List Text
  | [] => [[]]
  | c :: rest => if c = '\n' then [] :: lines rest else consFirst c (lines rest)

/-- Lines set one under the other, with a newline between two neighbours. -/
def unlines : List Text → Text
  | [] => []
  | [l] => l
  | l :: l' :: ls => l ++ '\n' :: unlines (l' :: ls)

theorem lines_ne_nil (t : Text) : lines t ≠ [] := by
  cases t with
  | nil => simp [lines]
  | cons c rest =>
    simp only [lines]
    split
    · simp
    · cases lines rest <;> simp [consFirst]

theorem unlines_consFirst (c : Char) (ls : List Text) :
    unlines (consFirst c ls) = c :: unlines ls := by
  match ls with
  | [] => rfl
  | [_] => rfl
  | _ :: _ :: _ => rfl

/-- A line above others. -/
theorem unlines_cons (l : Text) {ls : List Text} (hne : ls ≠ []) :
    unlines (l :: ls) = l ++ '\n' :: unlines ls := by
  cases ls with
  | nil => exact absurd rfl hne
  | cons l' ls => rfl

/-- Lines set under others. -/
theorem unlines_append {ls ms : List Text} (hl : ls ≠ []) (hm : ms ≠ []) :
    unlines (ls ++ ms) = unlines ls ++ '\n' :: unlines ms := by
  induction ls with
  | nil => exact absurd rfl hl
  | cons l ls ih =>
    by_cases hls : ls = []
    · rw [hls, List.singleton_append, unlines_cons l hm, unlines]
    · rw [List.cons_append, unlines_cons l (by simp [hls]), ih hls, unlines_cons l hls,
        List.append_assoc, List.cons_append]

/-- Lines may be put together in two goes. -/
theorem unlines_append_unlines (ls : List Text) {ms : List Text} (hne : ms ≠ []) :
    unlines (ls ++ [unlines ms]) = unlines (ls ++ ms) := by
  induction ls with
  | nil => rfl
  | cons l ls ih =>
    have hne' : ls ++ ms ≠ [] := fun h => hne (List.append_eq_nil_iff.1 h).2
    rw [List.cons_append, unlines_cons l (by simp), ih, List.cons_append, unlines_cons l hne']

/-- Putting the lines of a text together again gives the text. -/
theorem unlines_lines (t : Text) : unlines (lines t) = t := by
  induction t with
  | nil => rfl
  | cons c rest ih =>
    simp only [lines]
    split
    · next h =>
      rw [unlines_cons [] (lines_ne_nil rest), ih, h]
      rfl
    · rw [unlines_consFirst, ih]

/-- A text without a newline is one line. -/
theorem lines_of_not_mem {l : Text} (h : '\n' ∉ l) : lines l = [l] := by
  induction l with
  | nil => rfl
  | cons c rest ih =>
    rw [List.mem_cons, not_or] at h
    simp [lines, Ne.symm h.1, ih h.2, consFirst]

/-- What stands before a newline is a line. -/
theorem lines_append_newline {l : Text} (h : '\n' ∉ l) (t : Text) :
    lines (l ++ '\n' :: t) = l :: lines t := by
  induction l with
  | nil => simp [lines]
  | cons c rest ih =>
    rw [List.mem_cons, not_or] at h
    simp [lines, Ne.symm h.1, ih h.2, consFirst]

/-- Lines without newlines, set one under the other, are read back. -/
theorem lines_unlines {ls : List Text} (hne : ls ≠ []) (h : ∀ l ∈ ls, '\n' ∉ l) :
    lines (unlines ls) = ls := by
  match ls, hne with
  | [l], _ => exact lines_of_not_mem (h l (by simp))
  | l :: l' :: rest, _ =>
    rw [unlines, lines_append_newline (h l (by simp)),
      lines_unlines (by simp) fun m hm => h m (List.mem_cons_of_mem _ hm)]

end UiBootstrap.Text

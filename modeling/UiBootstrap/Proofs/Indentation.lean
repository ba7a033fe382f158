import UiBootstrap.Text.Indent
import UiBootstrap.Text.Search

/-!
# Indentation and back

A margin without a newline parts no line and joins no two, so the lines of an indented text are the
lines of the text, each behind the margin (`Text.lines_withMargin`). Taking the margin away from the
front of them gives the text back, whatever stands in it, and no other text gives it
(`Text.withoutMargin?_eq_some_iff`). Line by line an indentation depends on the number of the line
only (`Text.indentLines_eq_mapIdx`), so margins add up (`Text.withMargin_withMargin`) and a text is
indented in parts (`Text.withMargin_append_newline`). `Text.indentation_law` puts this together.
-/

namespace UiBootstrap.Text

variable {margin s t l : Text} {ls ms : List Text} {kept : Nat}

/-! ## The lines of an indented text -/

/-- No line holds a newline. -/
theorem newline_not_mem_of_mem_lines (h : l ∈ lines t) : '\n' ∉ l := by
  induction t generalizing l with
  | nil =>
    obtain rfl : l = [] := List.mem_singleton.1 h
    exact List.not_mem_nil
  | cons c t ih =>
    rw [lines] at h
    split at h
    · rcases List.mem_cons.1 h with rfl | h
      · exact List.not_mem_nil
      · exact ih h
    · next hc =>
      cases hls : lines t with
      | nil => exact absurd hls (lines_ne_nil t)
      | cons first rest =>
        rw [hls, consFirst] at h
        rcases List.mem_cons.1 h with rfl | h
        · intro hmem
          rcases List.mem_cons.1 hmem with hnewline | hmem
          · exact hc hnewline.symm
          · exact ih (hls ▸ List.mem_cons_self) hmem
        · exact ih (hls ▸ List.mem_cons_of_mem _ h)

/-- A newline parts the lines before it from those behind it. -/
theorem lines_append_cons_newline (s t : Text) : lines (s ++ '\n' :: t) = lines s ++ lines t := by
  induction s with
  | nil => exact lines_append_newline List.not_mem_nil t
  | cons c s ih =>
    rw [List.cons_append, lines, lines, ih]
    split
    · rfl
    · cases hls : lines s with
      | nil => exact absurd hls (lines_ne_nil s)
      | cons first rest => rfl

/-- An indentation leaves no line out. -/
theorem indentLines_ne_nil (h : ls ≠ []) : indentLines margin kept ls ≠ [] := by
  intro hnil
  obtain ⟨htake, hdrop⟩ := List.append_eq_nil_iff.1 hnil
  rw [List.map_eq_nil_iff] at hdrop
  exact h (by rw [← List.take_append_drop kept ls, htake, hdrop, List.append_nil])

/-- Every line behind the kept ones has the margin in front of it, and there are no other lines. -/
theorem lines_withMargin (h : '\n' ∉ margin) (fromLine : Nat) (t : Text) :
    lines (withMargin margin fromLine t) = indentLines margin (fromLine - 1) (lines t) := by
  refine lines_unlines (indentLines_ne_nil (lines_ne_nil t)) fun l hl => ?_
  rcases List.mem_append.1 hl with hl | hl
  · exact newline_not_mem_of_mem_lines (List.mem_of_mem_take hl)
  · obtain ⟨line, hline, rfl⟩ := List.mem_map.1 hl
    have hline : '\n' ∉ line := newline_not_mem_of_mem_lines (List.mem_of_mem_drop hline)
    rw [List.mem_append, not_or]
    exact ⟨h, hline⟩

/-! ## Line by line -/

/-- Whether a line gets the margin depends on its number only. -/
theorem indentLines_eq_mapIdx (margin : Text) (kept : Nat) (ls : List Text) :
    indentLines margin kept ls = ls.mapIdx fun i l => if i < kept then l else margin ++ l := by
  induction ls generalizing kept with
  | nil => simp [indentLines]
  | cons l ls ih =>
    cases kept with
    | zero => simpa [indentLines] using ih 0
    | succ kept =>
      -- Behind the first line both the numbers and the lines to keep are one less.
      have hcons : indentLines margin (kept + 1) (l :: ls) = l :: indentLines margin kept ls := rfl
      rw [hcons, ih, List.mapIdx_cons]
      simp

/-- The lines of an indented text by their numbers, counting from 1. -/
theorem getElem?_lines_withMargin (h : '\n' ∉ margin) (fromLine : Nat) (t : Text) (i : Nat) :
    (lines (withMargin margin fromLine t))[i]? =
      (lines t)[i]?.map fun l => if i + 1 < fromLine then l else margin ++ l := by
  rw [lines_withMargin h, indentLines_eq_mapIdx, List.getElem?_mapIdx]
  simp only [Nat.lt_sub_iff_add_lt]

/-- Two margins in front of the same lines are one. -/
theorem indentLines_indentLines (outer margin : Text) (kept : Nat) (ls : List Text) :
    indentLines outer kept (indentLines margin kept ls) =
      indentLines (outer ++ margin) kept ls := by
  simp only [indentLines_eq_mapIdx, List.mapIdx_mapIdx]
  congr 1
  funext i l
  simp only [Function.comp_apply]
  split
  · rfl
  · exact (List.append_assoc outer margin l).symm

/-- Lines are indented in parts: those of the first part count towards the lines that are kept. -/
theorem indentLines_append (margin : Text) (kept : Nat) (ls ms : List Text) :
    indentLines margin kept (ls ++ ms) =
      indentLines margin kept ls ++ indentLines margin (kept - ls.length) ms := by
  simp only [indentLines_eq_mapIdx, List.mapIdx_append, Nat.lt_sub_iff_add_lt]

/-- **Margins add up**, the later one in front. -/
theorem withMargin_withMargin (h : '\n' ∉ margin) (outer : Text) (fromLine : Nat) (t : Text) :
    withMargin outer fromLine (withMargin margin fromLine t) =
      withMargin (outer ++ margin) fromLine t := by
  rw [withMargin, lines_withMargin h, indentLines_indentLines, withMargin]

/-- **A text is indented in parts**: the lines above a part count for it. -/
theorem withMargin_append_newline (margin : Text) (fromLine : Nat) (s t : Text) :
    withMargin margin fromLine (s ++ '\n' :: t) = withMargin margin fromLine s ++
      '\n' :: withMargin margin (fromLine - (lines s).length) t := by
  have hkept : fromLine - 1 - (lines s).length = fromLine - (lines s).length - 1 :=
    Nat.sub_right_comm ..
  rw [withMargin, lines_append_cons_newline, indentLines_append, hkept,
    unlines_append (indentLines_ne_nil (lines_ne_nil s)) (indentLines_ne_nil (lines_ne_nil t)),
    withMargin, withMargin]

/-! ## Taking the margin away -/

/-- The lines without the margin in front of all but the first `kept`, if they have it there. -/
def outdentLines? (margin : Text) (kept : Nat) (ls : List Text) : Option (List Text) :=
  ((ls.drop kept).mapM margin.isPrefixOf?).map (ls.take kept ++ ·)

/-- The text without the margin in front of the lines numbered `fromLine` or higher, if they have it
there. -/
def withoutMargin? (margin : Text) (fromLine : Nat) (t : Text) : Option Text :=
  (outdentLines? margin (fromLine - 1) (lines t)).map unlines

/-- The margin is taken away from lines that each stand behind it, and from no others. -/
theorem mapM_isPrefixOf?_eq_some_iff :
    ls.mapM margin.isPrefixOf? = some ms ↔ ls = ms.map (margin ++ ·) := by
  induction ls generalizing ms with
  | nil => cases ms <;> simp
  | cons l ls ih =>
    simp only [List.mapM_cons, Option.bind_eq_bind, Option.bind_eq_some_iff, Option.pure_def,
      Option.some.injEq, isPrefixOf?_eq_some_iff, ih]
    cases ms with
    | nil => simp
    | cons m ms => simp

/-- Lines that were cut are cut at the same place again, whatever has become of those behind it. -/
theorem cut_take_append {xs : List Text} (h : ls.length ≤ kept → xs = []) :
    (ls.take kept ++ xs).take kept = ls.take kept ∧ (ls.take kept ++ xs).drop kept = xs := by
  rcases Nat.le_total kept ls.length with hle | hle
  · have hlen : (ls.take kept).length = kept := List.length_take_of_le hle
    exact ⟨List.take_left' hlen, List.drop_left' hlen⟩
  · -- There was nothing behind the cut.
    rw [h hle, List.append_nil, List.take_of_length_le hle]
    exact ⟨List.take_of_length_le hle, List.drop_eq_nil_of_le hle⟩

/-- **Lines are indented reversibly**, and only indented lines have the margin to be taken away. -/
theorem outdentLines?_eq_some_iff :
    outdentLines? margin kept ls = some ms ↔ ls = indentLines margin kept ms := by
  rw [outdentLines?, Option.map_eq_some_iff]
  simp only [mapM_isPrefixOf?_eq_some_iff]
  constructor
  · rintro ⟨xs, hdrop, rfl⟩
    have hnone : ls.length ≤ kept → xs = [] := fun hle =>
      List.map_eq_nil_iff.1 (hdrop.symm.trans (List.drop_eq_nil_of_le hle))
    obtain ⟨htake', hdrop'⟩ := cut_take_append hnone
    rw [indentLines, htake', hdrop', ← hdrop, List.take_append_drop]
  · rintro rfl
    have hnone : ms.length ≤ kept → (ms.drop kept).map (margin ++ ·) = [] := fun hle =>
      List.map_eq_nil_iff.2 (List.drop_eq_nil_of_le hle)
    obtain ⟨htake, hdrop⟩ := cut_take_append hnone
    exact ⟨ms.drop kept, hdrop, by rw [indentLines, htake, List.take_append_drop]⟩

/-- Where indented lines hold no newline, the lines hold none either. -/
theorem newline_not_mem_of_indentLines (h : ∀ l ∈ indentLines margin kept ls, '\n' ∉ l) :
    ∀ l ∈ ls, '\n' ∉ l := by
  intro l hl
  rw [← List.take_append_drop kept ls] at hl
  rcases List.mem_append.1 hl with hl | hl
  · exact h l (List.mem_append_left _ hl)
  · have hline : margin ++ l ∈ indentLines margin kept ls :=
      List.mem_append_right _ (List.mem_map_of_mem hl)
    exact fun hmem => h _ hline (List.mem_append_right _ hmem)

/-- **Indentation is reversible**, and a text from which the margin can be taken away is
indented. -/
theorem withoutMargin?_eq_some_iff (h : '\n' ∉ margin) {fromLine : Nat} :
    withoutMargin? margin fromLine s = some t ↔ s = withMargin margin fromLine t := by
  rw [withoutMargin?, Option.map_eq_some_iff]
  simp only [outdentLines?_eq_some_iff]
  constructor
  · rintro ⟨ls, hls, rfl⟩
    have hne : ls ≠ [] := by
      rintro rfl
      exact lines_ne_nil s (by rw [hls]; simp [indentLines])
    have hnewline : ∀ l ∈ ls, '\n' ∉ l := newline_not_mem_of_indentLines
      fun l hl => newline_not_mem_of_mem_lines (hls ▸ hl)
    rw [withMargin, lines_unlines hne hnewline, ← hls, unlines_lines]
  · rintro rfl
    exact ⟨lines t, lines_withMargin h fromLine t, unlines_lines t⟩

/-- The margin that was put in front of the lines of a text can be taken away. -/
theorem withoutMargin?_withMargin (h : '\n' ∉ margin) (fromLine : Nat) (t : Text) :
    withoutMargin? margin fromLine (withMargin margin fromLine t) = some t :=
  (withoutMargin?_eq_some_iff h).2 rfl

/-- By their numbers: without as many characters as the margin has, the indented lines are the lines
of the text. -/
theorem mapIdx_drop_lines_withMargin (h : '\n' ∉ margin) (fromLine : Nat) (t : Text) :
    ((lines (withMargin margin fromLine t)).mapIdx fun i l =>
      if i + 1 < fromLine then l else l.drop margin.length) = lines t := by
  refine List.ext_getElem? fun i => ?_
  rw [List.getElem?_mapIdx, getElem?_lines_withMargin h, Option.map_map]
  cases (lines t)[i]? with
  | none => rfl
  | some l =>
    by_cases hi : i + 1 < fromLine
    · simp [hi]
    · simp [hi]

/-! ## The law -/

/-- **Indentation is reversible and composes.** It keeps the number of lines and the lines above the
first that it is for, counting from 1, and the others stand behind the margin; taking it away from
the front of those gives the text back, and gives it for no other text. Counting from 0 means the
same as counting from 1. A second margin comes in front of the first as if they had been one, and a
text of two parts is indented as the parts are, where the lines of the upper count for the lower. So
it is for a margin of spaces too. -/
theorem indentation_law (h : '\n' ∉ margin) (fromLine : Nat) (t : Text) :
    let out := withMargin margin fromLine t
    (lines out).length = (lines t).length ∧
      (∀ i, i + 1 < fromLine → (lines out)[i]? = (lines t)[i]?) ∧
      (∀ i, fromLine ≤ i + 1 → (lines out)[i]? = (lines t)[i]?.map (margin ++ ·)) ∧
      unlines ((lines out).mapIdx fun i l =>
        if i + 1 < fromLine then l else l.drop margin.length) = t ∧
      (∀ s, withoutMargin? margin fromLine s = some t ↔ s = out) ∧
      withMargin margin 0 t = withMargin margin 1 t ∧
      (∀ outer, withMargin outer fromLine out = withMargin (outer ++ margin) fromLine t) ∧
      (∀ below, withMargin margin fromLine (t ++ '\n' :: below) =
        out ++ '\n' :: withMargin margin (fromLine - (lines t).length) below) ∧
      ∀ width, '\n' ∉ List.replicate width ' ' ∧
        indent width fromLine t = withMargin (List.replicate width ' ') fromLine t := by
  intro out
  refine ⟨?_, fun i hi => ?_, fun i hi => ?_, ?_, fun s => withoutMargin?_eq_some_iff h, rfl,
    fun outer => withMargin_withMargin h outer fromLine t,
    withMargin_append_newline margin fromLine t, fun width => ⟨?_, rfl⟩⟩
  · rw [lines_withMargin h, indentLines_eq_mapIdx, List.length_mapIdx]
  · simp [out, getElem?_lines_withMargin h, hi]
  · simp [out, getElem?_lines_withMargin h, Nat.not_lt.2 hi]
  · rw [mapIdx_drop_lines_withMargin h, unlines_lines]
  · exact fun hmem => absurd (List.eq_of_mem_replicate hmem) (by decide)

/-- Blank lines, the last of them empty. They get the margin too, so a text that lacks it there is
not read as this one, and a line that is set under them is indented like any other. -/
theorem indentation_law_blank_lines :
    let margin : Text := "\t"
    let t : Text := "a\n\n b\n"
    '\n' ∉ margin ∧ withMargin margin 2 t = "a\n\t\n\t b\n\t" ∧
      withoutMargin? margin 2 "a\n\t\n\t b\n\t" = some t ∧
      withoutMargin? margin 2 "a\n\n\t b\n\t" ≠ some t ∧
      withMargin "  " 2 (withMargin margin 2 t) = withMargin "  \t" 2 t ∧
      withMargin margin 2 (t ++ '\n' :: "c") = "a\n\t\n\t b\n\t\n\tc" := by
  intro margin t
  have hmargin : '\n' ∉ margin := by decide
  obtain ⟨-, -, -, -, hread, -, houter, hbelow, -⟩ := indentation_law hmargin 2 t
  have hout : withMargin margin 2 t = "a\n\t\n\t b\n\t" := by decide +kernel
  refine ⟨hmargin, hout, (hread _).2 hout.symm, fun h => ?_, houter "  ", ?_⟩
  · exact absurd ((hread _).1 h) (by decide +kernel)
  · exact (hbelow "c").trans (by decide +kernel)

end UiBootstrap.Text

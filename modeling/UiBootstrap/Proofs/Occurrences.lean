import Mathlib.Data.List.Infix
import UiBootstrap.Text.Blank
import UiBootstrap.Text.Indent
import UiBootstrap.Text.Search

/-!
# Where a mark occurs

A mark is a text that holds no newline and does not start with white space (`Text.IsMark`), like the
comments around the call region of a template. No occurrence of it crosses a newline or starts in a
margin, so it occurs in an indented text exactly if it occurs in the text
(`Text.infix_withMargin_iff`). And what stands behind its first occurrence has no influence on where
that is (`Text.splitFirst?_eq_some_iff`): it is the one that leaves the least before it
(`Text.not_infix_iff_length_le`).
-/

namespace UiBootstrap.Text

variable {mark t x y before after margin : Text} {c : Char} {ls : List Text}

/-- A text that stands on one line and does not start with white space. -/
structure IsMark (mark : Text) : Prop where
  first : ∃ c rest, mark = c :: rest ∧ isBlank c = false
  newline : '\n' ∉ mark

/-- A mark is not empty. -/
theorem IsMark.ne_nil (h : IsMark mark) : mark ≠ [] := by
  obtain ⟨c, rest, rfl, -⟩ := h.first
  exact List.cons_ne_nil c rest

/-! ## Barriers -/

/-- A text that lacks a character occurs on one side of it or on the other. -/
theorem infix_append_cons_iff (hc : c ∉ mark) :
    mark <:+: x ++ c :: y ↔ mark <:+: x ∨ mark <:+: y := by
  -- A prefix of what starts with the character is empty.
  have hstart : ∀ m : Text, c ∉ m → m <+: c :: y → m = [] := by
    intro m hm h
    rcases List.prefix_cons_iff.1 h with rfl | ⟨m', rfl, -⟩
    · rfl
    · exact absurd List.mem_cons_self hm
  constructor
  · intro h
    rcases List.infix_append_iff.1 h with hx | hy | ⟨m, m', rfl, hm, hm'⟩
    · exact .inl hx
    · rcases List.infix_cons_iff.1 hy with hy | hy
      · rw [hstart mark hc hy]
        exact .inl List.nil_infix
      · exact .inr hy
    · rw [hstart m' (fun h => hc (List.mem_append_right _ h)) hm', List.append_nil]
      exact .inl hm.isInfix
  · rintro (h | h)
    · exact List.infix_append_of_infix_left h
    · exact List.infix_append_of_infix_right (List.infix_cons h)

/-- A text without a newline occurs among lines exactly if it occurs in one of them. -/
theorem infix_unlines_iff (hmark : '\n' ∉ mark) (hne : ls ≠ []) :
    mark <:+: unlines ls ↔ ∃ l ∈ ls, mark <:+: l := by
  induction ls with
  | nil => exact absurd rfl hne
  | cons l ls ih =>
    by_cases hls : ls = []
    · subst hls
      simp [unlines]
    · rw [unlines_cons l hls, infix_append_cons_iff hmark, ih hls]
      simp

/-- A mark does not start in a margin. -/
theorem infix_margin_append_iff (hmark : IsMark mark) (hmargin : allBlank margin = true) :
    mark <:+: margin ++ t ↔ mark <:+: t := by
  obtain ⟨first, rest, rfl, hfirst⟩ := hmark.first
  induction margin with
  | nil => rfl
  | cons c margin ih =>
    obtain ⟨hc, hmargin⟩ : isBlank c = true ∧ allBlank margin = true := by
      simpa [allBlank] using hmargin
    rw [List.cons_append, List.infix_cons_iff, ih hmargin]
    constructor
    · rintro (h | h)
      · obtain ⟨rfl, -⟩ := List.cons_prefix_cons.1 h
        exact absurd hc (by simp [hfirst])
      · exact h
    · exact .inr

/-- **Indentation hides no mark and makes none.** -/
theorem infix_withMargin_iff (hmark : IsMark mark) (hmargin : allBlank margin = true) :
    mark <:+: withMargin margin 0 t ↔ mark <:+: t := by
  have hne : (lines t).map (margin ++ ·) ≠ [] := by simp [lines_ne_nil t]
  rw [withMargin_zero, infix_unlines_iff hmark.newline hne]
  conv_rhs => rw [← unlines_lines t, infix_unlines_iff hmark.newline (lines_ne_nil t)]
  simp only [List.mem_map, exists_exists_and_eq_and, infix_margin_append_iff hmark hmargin]

/-! ## The first occurrence -/

/-- A text that starts with the mark is cut at once. -/
theorem splitFirst?_mark_append (hne : mark ≠ []) :
    splitFirst? mark (mark ++ after) = some ([], after) := by
  obtain ⟨c, rest, rfl⟩ := List.exists_cons_of_ne_nil hne
  have h : (c :: rest).isPrefixOf? (c :: (rest ++ after)) = some after :=
    isPrefixOf?_eq_some_iff.2 rfl
  rw [List.cons_append, splitFirst?, h]

/-- Any other text is cut behind its first character. -/
theorem splitFirst?_cons (h : ¬ mark <+: c :: t) : splitFirst? mark (c :: t) =
    (splitFirst? mark t).map fun (before, after) => (c :: before, after) := by
  cases hp : mark.isPrefixOf? (c :: t) with
  | some after => exact absurd ⟨after, (isPrefixOf?_eq_some_iff.1 hp).symm⟩ h
  | none => rw [splitFirst?, hp]

/-- Nothing is found exactly if the mark does not occur. -/
theorem splitFirst?_eq_none_iff (hne : mark ≠ []) :
    splitFirst? mark t = none ↔ ¬ mark <:+: t := by
  induction t with
  | nil => simp [splitFirst?, hne]
  | cons c t ih =>
    rw [List.infix_cons_iff]
    by_cases h : mark <+: c :: t
    · obtain ⟨after, hafter⟩ := h
      rw [← hafter, splitFirst?_mark_append hne]
      simp
    · rw [splitFirst?_cons h, Option.map_eq_none_iff, ih]
      simp [h]

/-- Whether a text starts with the mark is decided before the last character of an occurrence
further on. -/
theorem prefix_cons_append_iff : mark <+: c :: (before ++ mark ++ after) ↔
    mark <+: c :: (before ++ mark.dropLast) := by
  have hlonger : c :: (before ++ mark.dropLast) <+: c :: (before ++ mark ++ after) := by
    rw [List.cons_prefix_cons, List.append_assoc, List.prefix_append_right_inj]
    have hlast : mark.dropLast <+: mark := List.dropLast_prefix mark
    exact ⟨rfl, hlast.trans (List.prefix_append _ _)⟩
  refine ⟨fun h => List.prefix_of_prefix_length_le h hlonger ?_, fun h => h.trans hlonger⟩
  simp only [List.length_cons, List.length_append, List.length_dropLast]
  omega

/-- Before the cut, and up to the last character of the mark there, the mark does not occur. -/
theorem not_infix_of_splitFirst? (hne : mark ≠ [])
    (h : splitFirst? mark t = some (before, after)) : ¬ mark <:+: before ++ mark.dropLast := by
  induction t generalizing before with
  | nil => simp [splitFirst?, hne] at h
  | cons c t ih =>
    by_cases hp : mark <+: c :: t
    · obtain ⟨rest, hrest⟩ := hp
      rw [← hrest, splitFirst?_mark_append hne] at h
      obtain ⟨rfl, -⟩ := Prod.mk.inj (Option.some.inj h)
      intro hocc
      have hlen := hocc.length_le
      have hpos := List.length_pos_iff.2 hne
      rw [List.nil_append, List.length_dropLast] at hlen
      omega
    · rw [splitFirst?_cons hp] at h
      obtain ⟨⟨b, a⟩, hb, heq⟩ := Option.map_eq_some_iff.1 h
      obtain ⟨rfl, rfl⟩ := Prod.mk.inj heq
      rw [eq_append_of_splitFirst? hb, prefix_cons_append_iff] at hp
      rw [List.cons_append, List.infix_cons_iff, not_or]
      exact ⟨hp, ih hb⟩

/-- **The first occurrence** is the one before which, its own last character left out, the mark does
not occur. What stands behind it has no influence. -/
theorem splitFirst?_eq_some_iff (hne : mark ≠ []) : splitFirst? mark t = some (before, after) ↔
    t = before ++ mark ++ after ∧ ¬ mark <:+: before ++ mark.dropLast := by
  refine ⟨fun h => ⟨eq_append_of_splitFirst? h, not_infix_of_splitFirst? hne h⟩, ?_⟩
  rintro ⟨rfl, h⟩
  induction before with
  | nil => exact splitFirst?_mark_append hne
  | cons c before ih =>
    rw [List.cons_append, List.infix_cons_iff, not_or, ← prefix_cons_append_iff] at h
    rw [List.cons_append, List.cons_append, splitFirst?_cons h.1, ih h.2]
    rfl

/-- A text is cut at a character before which that character does not stand. -/
theorem splitFirst?_append_cons (h : c ∉ before) :
    splitFirst? [c] (before ++ c :: after) = some (before, after) := by
  refine (splitFirst?_eq_some_iff (List.cons_ne_nil c [])).2 ⟨?_, fun hocc => ?_⟩
  · rw [List.append_assoc, List.singleton_append]
  · rw [List.dropLast_singleton, List.append_nil] at hocc
    exact h (hocc.subset List.mem_cons_self)

/-- Of all the ways to cut a text at the mark, the first occurrence leaves the least before it. -/
theorem not_infix_iff_length_le (hne : mark ≠ []) (ht : t = before ++ mark ++ after) :
    ¬ mark <:+: before ++ mark.dropLast ↔
      ∀ b a, t = b ++ mark ++ a → before.length ≤ b.length := by
  have hpos := List.length_pos_iff.2 hne
  have hlast : mark = mark.dropLast ++ [mark.getLast hne] := (List.dropLast_append_getLast hne).symm
  constructor
  · intro hnot b a hcut
    by_contra hlt
    have hearly : b ++ mark <+: t := ⟨a, hcut.symm⟩
    have hlate : before ++ mark.dropLast <+: t := by
      refine ⟨mark.getLast hne :: after, ?_⟩
      rw [ht]
      conv_rhs => rw [hlast]
      simp
    have hprefix : b ++ mark <+: before ++ mark.dropLast := by
      refine List.prefix_of_prefix_length_le hearly hlate ?_
      simp only [List.length_append, List.length_dropLast]
      omega
    exact hnot ((List.suffix_append b mark).isInfix.trans hprefix.isInfix)
  · rintro hmin ⟨x, y, hxy⟩
    have hcut : t = x ++ mark ++ (y ++ mark.getLast hne :: after) := by
      rw [ht, ← List.append_assoc, hxy]
      conv_lhs => rw [hlast]
      simp
    have hle := hmin x _ hcut
    have hlen := congrArg List.length hxy
    simp only [List.length_append, List.length_dropLast] at hlen
    omega

end UiBootstrap.Text

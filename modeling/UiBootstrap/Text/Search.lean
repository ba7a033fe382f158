import UiBootstrap.Text.Basic

/-!
# Searching

The first occurrence of one text in another, as a cut: what stands before it and what after.
-/

namespace UiBootstrap.Text

/-- Cuts a text at the first occurrence of `mark`: the text before it and the text after it. -/
def splitFirst? (mark : Text) : Text → Option (Text × Text)
  | [] => if mark = [] then some ([], []) else none
  | c :: rest =>
    match mark.isPrefixOf? (c :: rest) with
    | some after => some ([], after)
    | none => (splitFirst? mark rest).map fun (before, after) => (c :: before, after)

/-- The part of a text after its last newline: all of it, if it has none. -/
def lastLine (t : Text) : Text := (t.reverse.takeWhile (· ≠ '\n')).reverse

/-- A text starts with `mark` and goes on with `after` if it is the one followed by the other. -/
theorem isPrefixOf?_eq_some_iff :
    ∀ {mark t after : Text}, mark.isPrefixOf? t = some after ↔ t = mark ++ after
  | [], _, _ => Option.some_inj
  | _ :: _, [], _ => ⟨nofun, nofun⟩
  | c :: mark, d :: t, after => by
    change (if c == d then mark.isPrefixOf? t else none) = some after ↔ d :: t = c :: mark ++ after
    rw [List.cons_append, List.cons.injEq]
    split
    · next h => simp [isPrefixOf?_eq_some_iff, (beq_iff_eq.1 h).symm]
    · next h => simp only [beq_iff_eq] at h; simp [Ne.symm h]

/-- **A cut loses nothing but the mark.** -/
theorem eq_append_of_splitFirst? {mark : Text} :
    ∀ {t before after : Text}, splitFirst? mark t = some (before, after) →
      t = before ++ mark ++ after
  | [], before, after, h => by
    simp only [splitFirst?] at h
    split at h
    · next hm => simp only [Option.some.injEq, Prod.mk.injEq] at h; simp [← h.1, ← h.2, hm]
    · cases h
  | c :: rest, before, after, h => by
    simp only [splitFirst?] at h
    split at h
    · next tail hp =>
      simp only [Option.some.injEq, Prod.mk.injEq] at h
      obtain ⟨rfl, rfl⟩ := h
      simpa using isPrefixOf?_eq_some_iff.1 hp
    · obtain ⟨⟨b, a⟩, hb, he⟩ := Option.map_eq_some_iff.1 h
      simp only [Prod.mk.injEq] at he
      obtain ⟨rfl, rfl⟩ := he
      simp [eq_append_of_splitFirst? hb]

end UiBootstrap.Text

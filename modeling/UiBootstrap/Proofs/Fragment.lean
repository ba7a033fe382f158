import Mathlib.Data.List.Basic
import UiBootstrap.Fragment

/-!
# Nothing is trimmed from a fragment

Every line of a fragment starts with a letter, a digit, a quote or a colon and ends with a comma
(`Binding.line_framed`), so no fragment starts or ends with white space and the final trim takes
nothing away: a fragment is its lines, one under the other (`Listing.fragment_eq_unlines`).
-/

namespace UiBootstrap

variable {key : Text}

/-! ## Keys -/

/-- The characters of a key without quotes are the letters and digits of ASCII. -/
theorem isPlainKeyChar_iff (c : Char) : isPlainKeyChar c = true ↔
    'a' ≤ c ∧ c ≤ 'z' ∨ 'A' ≤ c ∧ c ≤ 'Z' ∨ '0' ≤ c ∧ c ≤ '9' := by
  unfold isPlainKeyChar Char.isAlphanum Char.isAlpha Char.isUpper Char.isLower Char.isDigit
  simp only [Bool.or_eq_true, Bool.and_eq_true, decide_eq_true_eq, or_assoc]
  show 'A' ≤ c ∧ c ≤ 'Z' ∨ 'a' ≤ c ∧ c ≤ 'z' ∨ _ ↔ _
  exact or_left_comm

/-- None of them is white space. -/
theorem isBlank_of_isPlainKeyChar {c : Char} (h : isPlainKeyChar c = true) :
    Text.isBlank c = false := by
  have hc : 97 ≤ c.toNat ∧ c.toNat ≤ 122 ∨ 65 ≤ c.toNat ∧ c.toNat ≤ 90 ∨
      48 ≤ c.toNat ∧ c.toNat ≤ 57 := (isPlainKeyChar_iff c).1 h
  simp only [Text.isBlank, Text.blankRanges, List.any_cons, List.any_nil, Bool.or_false,
    Bool.or_eq_false_iff, Bool.and_eq_false_iff, decide_eq_false_iff_not]
  omega

/-- A key that has such characters only has no other. -/
theorem not_mem_of_all_plain {c : Char} (hplain : key.all isPlainKeyChar = true)
    (hc : isPlainKeyChar c = false) : c ∉ key := fun hmem =>
  Bool.eq_false_iff.1 hc (List.all_eq_true.1 hplain c hmem)

/-- Such a key is written as it is. -/
theorem keyText_of_plain (h : key.all isPlainKeyChar = true) : keyText key = key := if_pos h

/-- Any other key is written in quotes. -/
theorem keyText_of_not_plain (h : ¬ key.all isPlainKeyChar = true) :
    keyText key = '"' :: key ++ ['"'] := if_neg h

/-! ## Lines -/

namespace Text

/-- A text that starts and ends with a character that is not white space. -/
structure Framed (t : Text) : Prop where
  first : ∃ c rest, t = c :: rest ∧ isBlank c = false
  last : ∃ rest c, t = rest ++ [c] ∧ isBlank c = false

namespace Framed

/-- Nothing is trimmed from such a text. -/
theorem trim {t : Text} (h : Framed t) : Text.trim t = t := by
  have hfront : trimFront t = t := by
    obtain ⟨c, rest, rfl, hc⟩ := h.first
    exact List.dropWhile_cons_of_neg (by simp [hc])
  have hback : trimFront t.reverse = t.reverse := by
    obtain ⟨rest, c, rfl, hc⟩ := h.last
    rw [List.reverse_append]
    exact List.dropWhile_cons_of_neg (by simp [hc])
  rw [Text.trim, hfront, hback, List.reverse_reverse]

/-- Such texts one under the other make such a text. -/
theorem unlines {ls : List Text} (hne : ls ≠ []) (h : ∀ l ∈ ls, Framed l) :
    Framed (Text.unlines ls) := by
  match ls, hne with
  | [l], _ => exact h l (by simp)
  | l :: l' :: rest, _ =>
    have htail : Framed (Text.unlines (l' :: rest)) :=
      unlines (by simp) fun m hm => h m (List.mem_cons_of_mem _ hm)
    obtain ⟨c, front, hl, hc⟩ := (h l (by simp)).first
    obtain ⟨back, d, hb, hd⟩ := htail.last
    rw [Text.unlines]
    exact ⟨⟨c, _, by rw [hl]; rfl, hc⟩, ⟨l ++ '\n' :: back, d, by simp [hb], hd⟩⟩

end Framed

end Text

/-- A written key, with what follows it, starts with a character that is not white space. -/
theorem keyText_first (key rest : Text) :
    ∃ c t, keyText key ++ ':' :: rest = c :: t ∧ Text.isBlank c = false := by
  by_cases hplain : key.all isPlainKeyChar = true
  · rw [keyText_of_plain hplain]
    cases key with
    | nil => exact ⟨':', rest, rfl, by decide⟩
    | cons c key =>
      exact ⟨c, _, rfl, isBlank_of_isPlainKeyChar (List.all_eq_true.1 hplain c List.mem_cons_self)⟩
  · rw [keyText_of_not_plain hplain]
    exact ⟨'"', _, rfl, by decide⟩

/-- A line of a fragment neither starts nor ends with white space. -/
theorem Binding.line_framed (key : Text) (v : Binding) : Text.Framed (v.line key) where
  first := by
    obtain ⟨c, t, h, hc⟩ := keyText_first key (' ' :: (v.literal ++ [',']))
    exact ⟨c, t, by simpa [line] using h, hc⟩
  last := ⟨keyText key ++ ": " ++ v.literal, ',', rfl, by decide⟩

namespace Listing

/-- Every line of a fragment is of that kind. -/
theorem framed_of_mem_lines {listing : Listing} {l : Text} (hl : l ∈ listing.lines) :
    Text.Framed l := by
  obtain ⟨⟨key, v⟩, -, rfl⟩ := List.mem_map.1 hl
  exact v.line_framed key

/-- A fragment is its lines, one under the other. -/
theorem fragment_eq_unlines (listing : Listing) :
    listing.fragment = Text.unlines listing.lines := by
  rw [fragment]
  by_cases h : listing.lines = []
  · rw [h]
    rfl
  · exact (Text.Framed.unlines h fun _ hl => framed_of_mem_lines hl).trim

/-- The lines of a listing above another one. -/
theorem lines_append {listing top bottom : Listing}
    (h : listing.entries = top.entries ++ bottom.entries) :
    listing.lines = top.lines ++ bottom.lines := by
  rw [lines, h, List.map_append]
  rfl

/-- A fragment neither starts nor ends with white space. -/
theorem fragment_framed {listing : Listing} (h : listing.entries ≠ []) :
    Text.Framed listing.fragment := by
  have hlines : listing.lines ≠ [] := by simpa [lines] using h
  rw [fragment_eq_unlines]
  exact Text.Framed.unlines hlines fun _ hl => framed_of_mem_lines hl

/-- A fragment is empty exactly if nothing is listed. -/
theorem fragment_eq_nil_iff (listing : Listing) : listing.fragment = [] ↔ listing.entries = [] := by
  constructor
  · intro h
    by_contra hne
    obtain ⟨c, rest, hc, -⟩ := (fragment_framed hne).first
    rw [h] at hc
    cases hc
  · intro h
    rw [fragment_eq_unlines, lines, h]
    rfl

end Listing

end UiBootstrap

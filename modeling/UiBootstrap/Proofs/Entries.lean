import UiBootstrap.Resolution
import UiBootstrap.Proofs.Fragment
import UiBootstrap.Proofs.Occurrences

/-!
# Reading a fragment back

Values are written into a fragment as they are, and so are the keys between their quotes. Still each
entry can be read back from its line (`Binding.readEntry?_line`): its key ends at the second quote,
or at the first colon if it has no quotes, whatever the value looks like; and the value ends at the
last comma, which is that of the line. Where no key and no value breaks a line, the lines of a
fragment are its entries, so the whole of it is read back (`Options.fragment_readable`).
-/

namespace UiBootstrap

/-! ## Reading -/

/-- Reads the key at the front of an entry, and hands back what comes behind it: what stands between
the first two quotes if the text starts with a quote, and otherwise what stands before the first
colon. -/
def readKey? (t : Text) : Option (Text × Text) :=
  if t.head? = some '"' then Text.splitFirst? ['"'] t.tail
  else (Text.splitFirst? [':'] t).map fun (key, rest) => (key, ':' :: rest)

/-- What stands before the last comma of a text. -/
def beforeLastComma? (t : Text) : Option Text :=
  (Text.splitFirst? [','] t.reverse).map fun (_, before) => before.reverse

/-- Reads an entry: its key, and what stands between the colon and the last comma. -/
def readEntry? (l : Text) : Option (Text × Text) := do
  let (key, rest) ← readKey? l
  let rest ← (": " : Text).isPrefixOf? rest
  return (key, ← beforeLastComma? rest)

/-- The lines of a fragment. An empty fragment has none. -/
def entryLines (fragment : Text) : List Text := if fragment = [] then [] else Text.lines fragment

variable {key l : Text} {v : Binding} {listing : Listing}

/-! ## One entry -/

/-- **A key is read back**, whatever comes behind the colon. -/
theorem readKey?_keyText (hquote : '"' ∉ key) (rest : Text) :
    readKey? (keyText key ++ ':' :: rest) = some (key, ':' :: rest) := by
  by_cases hplain : key.all isPlainKeyChar = true
  · have hhead : (key ++ ':' :: rest).head? ≠ some '"' := by
      cases key with
      | nil => simp
      | cons c key =>
        intro h
        exact hquote (Option.some.inj h ▸ List.mem_cons_self)
    have hcolon : ':' ∉ key := not_mem_of_all_plain hplain (by decide)
    rw [keyText_of_plain hplain, readKey?, if_neg hhead, Text.splitFirst?_append_cons hcolon]
    rfl
  · have hsplit : '"' :: key ++ ['"'] ++ ':' :: rest = '"' :: (key ++ '"' :: ':' :: rest) := by simp
    rw [keyText_of_not_plain hplain, hsplit, readKey?, List.head?_cons, if_pos rfl]
    exact Text.splitFirst?_append_cons hquote

/-- What stands before a last comma. -/
theorem beforeLastComma?_concat (t : Text) : beforeLastComma? (t ++ [',']) = some t := by
  have h : Text.splitFirst? [','] (',' :: t.reverse) = some ([], t.reverse) :=
    Text.splitFirst?_append_cons List.not_mem_nil
  rw [beforeLastComma?, List.reverse_append, List.reverse_singleton, List.singleton_append, h]
  exact congrArg some t.reverse_reverse

/-- **An entry is read back from its line**, whatever its value looks like. -/
theorem Binding.readEntry?_line (hquote : '"' ∉ key) (v : Binding) :
    readEntry? (v.line key) = some (key, v.literal) := by
  have hline : v.line key = keyText key ++ ':' :: ' ' :: (v.literal ++ [',']) := by
    simp [line]
  have hcolon : (": " : Text).isPrefixOf? (':' :: ' ' :: (v.literal ++ [','])) =
      some (v.literal ++ [',']) := Text.isPrefixOf?_eq_some_iff.2 rfl
  rw [hline, readEntry?, readKey?_keyText hquote]
  simp only [Option.bind_eq_bind, Option.bind_some, hcolon, beforeLastComma?_concat]
  rfl

/-- How a value is written. -/
theorem Binding.literal_eq (v : Binding) : v.literal =
    if v.schema.type = .string then ['"'] ++ v.value ++ ['"']
    else if v.value = [] then ("undefined" : Text)
    else v.value := by
  simp only [literal, VarSchema.isString, decide_eq_true_eq, List.isEmpty_iff]
  rfl

/-- A value without a newline is written without one. -/
theorem Binding.newline_not_mem_literal (h : '\n' ∉ v.value) : '\n' ∉ v.literal := by
  rw [literal]
  split
  · simp [h]
  split
  · decide
  · exact h

/-- An entry stands on one line if its key and its value have no newline. -/
theorem Binding.newline_not_mem_line (hkey : '\n' ∉ key) (hvalue : '\n' ∉ v.value) :
    '\n' ∉ v.line key := by
  have hkeyText : '\n' ∉ keyText key := by
    rw [keyText]
    split
    · exact hkey
    · simp [hkey]
  simp [line, hkeyText, newline_not_mem_literal hvalue]

/-! ## The whole fragment -/

/-- The lines of a fragment are its entries, if none of these breaks a line. -/
theorem Listing.entryLines_fragment (h : ∀ p ∈ listing.entries, '\n' ∉ p.1 ∧ '\n' ∉ p.2.value) :
    entryLines listing.fragment = listing.lines := by
  by_cases hnil : listing.entries = []
  · rw [entryLines, if_pos (listing.fragment_eq_nil_iff.2 hnil), lines, hnil, List.map_nil]
  · rw [entryLines, if_neg fun hf => hnil (listing.fragment_eq_nil_iff.1 hf), fragment_eq_unlines]
    refine Text.lines_unlines (by simpa [lines] using hnil) fun l hl => ?_
    obtain ⟨p, hp, rfl⟩ := List.mem_map.1 hl
    exact Binding.newline_not_mem_line (h p hp).1 (h p hp).2

/-- **A fragment is read back line by line.** If no key listed has a newline or a quote in it and no
value has a newline, the lines of a fragment are the entries, one line each and in their order. From
each line its key is read, and its value as it is written: in quotes if it is a string, else as it
is, or `undefined` where it is empty. -/
theorem Options.fragment_readable (options : Options) (env : Environment)
    (h : ∀ p ∈ (options.merge env).listing.entries,
      '\n' ∉ p.1 ∧ '"' ∉ p.1 ∧ '\n' ∉ p.2.value) :
    let entries := (options.merge env).listing.entries
    let fragment := (options.fragment env).value
    let written := fun v : Binding =>
      if v.schema.type = .string then ['"'] ++ v.value ++ ['"']
      else if v.value = [] then ("undefined" : Text)
      else v.value
    entryLines fragment = entries.map (fun (key, v) => v.line key) ∧
      (entryLines fragment).map readEntry? = entries.map fun (key, v) => some (key, written v) := by
  intro entries fragment written
  have hlines : entryLines fragment = (options.merge env).listing.lines :=
    Listing.entryLines_fragment fun p hp => ⟨(h p hp).1, (h p hp).2.2⟩
  refine ⟨hlines, ?_⟩
  rw [hlines, Listing.lines, List.map_map]
  refine List.map_congr_left fun p hp => ?_
  have hwritten : p.2.literal = written p.2 := p.2.literal_eq
  rw [Function.comp_apply, Binding.readEntry?_line (h p hp).2.1, hwritten]

/-- Values that look like the end of an entry and the start of another, one that is empty, and keys
with a colon and with nothing in them. -/
theorem Options.fragment_readable_forged :
    let vocabulary : Vocabulary := .ofList
      [("A", .ofType "a: b," .string), ("B", .ofType "" .object), ("C", .ofType "c" .number)]
    let options : Options := { vocabulary }
    let env : Environment :=
      [("A", "1\", \"url\": \"2"), ("B", "\x7b\"x\": 1\x7d, c: 3,"), ("C", "")]
    let entries : List (Text × Text) := [("a: b,", "\"1\", \"url\": \"2\""),
      ("", "\x7b\"x\": 1\x7d, c: 3,"), ("c", "undefined")]
    (∀ p ∈ (options.merge env).listing.entries, '\n' ∉ p.1 ∧ '"' ∉ p.1 ∧ '\n' ∉ p.2.value) ∧
      (entryLines (options.fragment env).value).map readEntry? = entries.map some := by
  intro vocabulary options env entries
  have h : ∀ p ∈ (options.merge env).listing.entries,
      '\n' ∉ p.1 ∧ '"' ∉ p.1 ∧ '\n' ∉ p.2.value := by decide +kernel
  exact ⟨h, (Options.fragment_readable options env h).2.trans (by decide +kernel)⟩

end UiBootstrap

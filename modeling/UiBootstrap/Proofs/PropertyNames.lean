import UiBootstrap.Resolution
import UiBootstrap.Proofs.Fragment
import UiBootstrap.Proofs.Merge.Contest

/-!
# No property is written twice

An object with two properties of one name keeps the last of them only, so a property that is written
twice would take a setting away. The keys of a listing are distinct however many variables set them,
and distinct keys are written differently (`keyText_injective`), although a key may have quotes in
it and nothing is escaped: a key in quotes starts with a quote, which no key without quotes does. So
no two entries of a fragment have the same name (`Options.properties_distinct`).
-/

namespace UiBootstrap

variable {key : Text} {listing : Listing}

/-- A key in quotes is longer than the key. -/
theorem keyText_eq_self_iff : keyText key = key ↔ key.all isPlainKeyChar = true := by
  refine ⟨fun h => ?_, keyText_of_plain⟩
  by_contra hquoted
  have hlen := congrArg List.length (keyText_of_not_plain hquoted ▸ h)
  simp only [List.length_append, List.length_cons, List.length_nil] at hlen
  omega

/-- A quote stands in no key without quotes, so none looks like a key in quotes. -/
theorem ne_quoted_of_plain (h : key.all isPlainKeyChar = true) (other : Text) :
    key ≠ '"' :: other ++ ['"'] := by
  rintro rfl
  exact not_mem_of_all_plain h (by decide) List.mem_cons_self

/-- **Distinct keys are written differently.** -/
theorem keyText_injective : Function.Injective keyText := by
  intro key other h
  by_cases hkey : key.all isPlainKeyChar = true
  · rw [keyText_of_plain hkey] at h
    by_cases hother : other.all isPlainKeyChar = true
    · rwa [keyText_of_plain hother] at h
    · exact absurd (h.trans (keyText_of_not_plain hother)) (ne_quoted_of_plain hkey other)
  · rw [keyText_of_not_plain hkey] at h
    by_cases hother : other.all isPlainKeyChar = true
    · rw [keyText_of_plain hother] at h
      exact absurd h.symm (ne_quoted_of_plain hother key)
    · rw [keyText_of_not_plain hother] at h
      exact List.append_cancel_right (List.cons.inj h).2

namespace Listing

/-- The names of the properties: the keys, as they are written. -/
def names (listing : Listing) : List Text := (Keyed.keys listing.entries).map keyText

/-- Where keys are distinct, names are. -/
theorem nodup_names (h : (Keyed.keys listing.entries).Nodup) : listing.names.Nodup :=
  h.map keyText_injective

/-- A name stands among the names exactly if its key is listed. -/
theorem keyText_mem_names_iff : keyText key ∈ listing.names ↔ key ∈ Keyed.keys listing.entries :=
  List.mem_map_of_injective keyText_injective

end Listing

/-- **No property is written twice.** Every line of a fragment starts with a name, and no two of the
names are the same: distinct keys have distinct names, and a key that is listed is written once, any
other not at all. A key is written as it is exactly if all its characters are letters and digits of
ASCII, and otherwise between quotes. -/
theorem Options.properties_distinct (options : Options) (hd : options.defaults.Built)
    (env : Environment) :
    let listing := (options.merge env).listing
    (options.fragment env).value = Text.unlines (listing.entries.map fun (key, v) =>
        keyText key ++ (": " : Text) ++ v.literal ++ ("," : Text)) ∧
      listing.names.Nodup ∧
      (∀ key other, key ≠ other → keyText key ≠ keyText other) ∧
      (∀ key, keyText key = key ↔
        ∀ c ∈ key, 'a' ≤ c ∧ c ≤ 'z' ∨ 'A' ≤ c ∧ c ≤ 'Z' ∨ '0' ≤ c ∧ c ≤ '9') ∧
      (∀ key, keyText key ≠ key → keyText key = ['"'] ++ key ++ ['"']) ∧
      (∀ key, listing.names.count (keyText key) =
        if key ∈ Keyed.keys listing.entries then 1 else 0) := by
  intro listing
  have hkeys : (Keyed.keys listing.entries).Nodup :=
    (Stands.merge (Options.start_initial hd) options.vocabulary env).nodup
  refine ⟨listing.fragment_eq_unlines, Listing.nodup_names hkeys,
    fun key other hne h => hne (keyText_injective h), fun key => ?_, fun key hne => ?_,
    fun key => ?_⟩
  · rw [keyText_eq_self_iff, List.all_eq_true]
    exact forall₂_congr fun c _ => isPlainKeyChar_iff c
  · exact keyText_of_not_plain fun hplain => hne (keyText_of_plain hplain)
  · rw [(Listing.nodup_names hkeys).count]
    simp only [Listing.keyText_mem_names_iff]

/-- A key, the same key in quotes, a default in quotes twice, a key with nothing in it, and two
variables for one key. -/
theorem Options.properties_distinct_quoted :
    let vocabulary : Vocabulary := .ofList [("A", .ofType "a" .string),
      ("B", .ofType "\"a\"" .string), ("C", .ofType "" .object),
      ("D", .asLegacy (.ofType "a" .string))]
    let defaults : Defaults := .ofList [("\"\"a\"\"", ⟨"1", .number⟩), ("a", ⟨"2", .number⟩)]
    let options : Options := { seed := true, vocabulary, defaults }
    let env : Environment := [("A", "x"), ("B", "y"), ("C", ""), ("D", "z")]
    options.defaults.Built ∧
      (options.fragment env).value =
        "\"\"\"a\"\"\": 1,\na: \"x\",\n\"\"a\"\": \"y\",\n: undefined," ∧
      (options.merge env).listing.names.Nodup ∧
      (options.merge env).listing.names.count ("a" : Text) = 1 := by
  intro vocabulary defaults options env
  have hd : options.defaults.Built := .ofList _
  obtain ⟨hfragment, hnodup, -, -, -, hcount⟩ := Options.properties_distinct options hd env
  exact ⟨hd, hfragment.trans (by decide +kernel), hnodup,
    (hcount "a").trans (if_pos (by decide +kernel))⟩

end UiBootstrap

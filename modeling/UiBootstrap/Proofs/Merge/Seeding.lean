import UiBootstrap.Resolution
import UiBootstrap.Proofs.Fragment
import UiBootstrap.Proofs.Merge.ClosedForm
import UiBootstrap.Proofs.Merge.Trace

/-!
# Reading with and without the defaults

`Options.seeding_adds_lines` compares two readings of one environment, one over the defaults and one
over nothing. Which variable wins does not depend on the start (`superseded_iff`), so the two
listings have the same winners and the outside world is told the same (`events_merge_eq`). The
traces differ where a variable is the first to set a key that has a default: there it takes the
place of the default in one reading and is the first value in the other.
-/

namespace UiBootstrap

variable {found earlier : List Found} {f : Found} {start start' : Listing}

/-! ## Two starts -/

/-- What is told of a variable does not depend on the start. -/
theorem events_fate (hs : start.Initial) (hs' : start'.Initial) :
    (fate start earlier f).events f.schema = (fate start' earlier f).events f.schema := by
  have h : (fate start earlier f).outcome = .superseded ↔
      (fate start' earlier f).outcome = .superseded :=
    (superseded_iff hs).trans (superseded_iff hs').symm
  rw [TraceEntry.events, TraceEntry.events]
  simp only [h]
  rfl

/-- **What an environment lets the outside world know** does not depend on the start. -/
theorem events_merge_eq (hs : start.Initial) (hs' : start'.Initial) (vocabulary : Vocabulary)
    (env : Environment) :
    (vocabulary.merge start env).events = (vocabulary.merge start' env).events := by
  induction env using List.reverseRecOn with
  | nil => rfl
  | append_singleton env p ih =>
    obtain ⟨name, value⟩ := p
    cases h : vocabulary.get? name with
    | none =>
      rw [Vocabulary.merge_concat_of_none env h, Vocabulary.merge_concat_of_none env h]
      exact ih
    | some schema =>
      rw [Vocabulary.merge_concat_of_some env h, Vocabulary.merge_concat_of_some env h]
      rw [Merged.events_read (.merge hs vocabulary env),
        Merged.events_read (.merge hs' vocabulary env), ih, events_fate hs hs']

/-- Behind a variable that sets the same key, what becomes of one does not depend on the start. -/
theorem fate_eq_of_mem (h : f.key ∈ earlier.map Found.key) :
    fate start earlier f = fate start' earlier f := by
  cases hw : winner? (rivals f.key earlier) with
  | none => exact absurd h (rivals_eq_nil_iff.1 (winner?_eq_none_iff.1 hw))
  | some w => simp [fate, standing, hw]

/-! ## The defaults as a start -/

/-- The first variable that sets a key takes the place of the default for it. -/
theorem fate_ofDefaults {defaults : Defaults} (hd : defaults.Built)
    (h : f.key ∉ earlier.map Found.key) (hk : f.key ∈ Keyed.keys defaults.entries) :
    (fate (.ofDefaults defaults) earlier f).outcome = .replaced true := by
  rw [← Listing.keys_ofDefaults] at hk
  rw [outcome_fate_of_not_mem (Listing.ofDefaults_initial hd) h, if_pos hk]

/-- The first variable that sets a key without a default meets nothing. -/
theorem fate_ofDefaults_of_not_mem {defaults : Defaults}
    (hk : f.key ∉ Keyed.keys defaults.entries) :
    fate (.ofDefaults defaults) earlier f = fate {} earlier f := by
  by_cases h : f.key ∈ earlier.map Found.key
  · exact fate_eq_of_mem h
  · rw [← Listing.keys_ofDefaults] at hk
    have hnone : (Listing.ofDefaults defaults).get? f.key = none := Keyed.get?_eq_none_iff.2 hk
    rw [fate_of_not_mem h, fate_of_not_mem h, hnone]
    rfl

/-- The traces of the two readings agree, but for the first variable that sets a key with a default.
-/
theorem outcomes_of_fate {defaults : Defaults} (hd : defaults.Built) :
    if f.key ∈ Keyed.keys defaults.entries ∧ f.key ∉ earlier.map Found.key
    then (fate {} earlier f).outcome = .inserted ∧
      (fate (.ofDefaults defaults) earlier f).outcome = .replaced true
    else (fate (.ofDefaults defaults) earlier f).outcome = (fate {} earlier f).outcome := by
  split
  · next h =>
    refine ⟨?_, fate_ofDefaults hd h.2 h.1⟩
    rw [fate_of_not_mem h.2]
    rfl
  · next h =>
    by_cases hk : f.key ∈ Keyed.keys defaults.entries
    · have hmem : f.key ∈ earlier.map Found.key := by
        by_contra hmem
        exact h ⟨hk, hmem⟩
      rw [fate_eq_of_mem hmem]
    · rw [fate_ofDefaults_of_not_mem hk]

/-! ## The comparison -/

/-- The fragment of a listing above another one. -/
theorem fragment_of_append {listing top bottom : Listing}
    (h : listing.entries = top.entries ++ bottom.entries) :
    listing.fragment = Text.unlines (top.lines ++
      if bottom.fragment = [] then [] else [bottom.fragment]) := by
  rw [Listing.fragment_eq_unlines, Listing.lines_append h]
  by_cases hb : bottom.entries = []
  · rw [if_pos ((Listing.fragment_eq_nil_iff bottom).2 hb), Listing.lines, Listing.lines, hb]
    rfl
  · have hne : bottom.lines ≠ [] := by simpa [Listing.lines] using hb
    rw [if_neg fun h => hb ((Listing.fragment_eq_nil_iff bottom).1 h),
      Listing.fragment_eq_unlines, Text.unlines_append_unlines _ hne]

/-- **The defaults only add lines.** Read over the defaults, an environment leads to the listing
that it leads to over nothing, below the defaults whose keys no recognized variable sets; the
fragment is the lines of those above the other fragment. As many variables are ignored and the same
events happen. The traces pair up, and the outcomes are the same but for the first variable that
sets a key with a default: it takes the place of the default in one reading and is the first value
in the other. -/
theorem Options.seeding_adds_lines (options : Options) (hd : options.defaults.Built)
    (env : Environment) :
    let seeded : Options := { options with seed := true }
    let plain : Options := { options with seed := false }
    let found := options.vocabulary.recognized env
    let kept : Listing :=
      ⟨(Listing.ofDefaults options.defaults).entries.without (found.map Found.key)⟩
    (seeded.merge env).listing.entries = kept.entries ++ (plain.merge env).listing.entries ∧
      (seeded.fragment env).value = Text.unlines (kept.lines ++
        if (plain.fragment env).value = [] then [] else [(plain.fragment env).value]) ∧
      (seeded.merge env).ignored = (plain.merge env).ignored ∧
      (seeded.merge env).events = (plain.merge env).events ∧
      (seeded.merge env).trace.length = found.length ∧
      (plain.merge env).trace.length = found.length ∧
      ∀ i f, found[i]? = some f → ∃ o o' : Outcome,
        (plain.merge env).trace[i]? = some ⟨f.name, f.key, o⟩ ∧
        (seeded.merge env).trace[i]? = some ⟨f.name, f.key, o'⟩ ∧
        if f.key ∈ Keyed.keys options.defaults.entries ∧ f.key ∉ (found.take i).map Found.key
        then o = .inserted ∧ o' = .replaced true
        else o' = o := by
  intro seeded plain found kept
  have hs : (Listing.ofDefaults options.defaults).Initial := Listing.ofDefaults_initial hd
  have hs' : Listing.Initial {} := Listing.empty_initial
  have hlisting : (seeded.merge env).listing.entries =
      kept.entries ++ (plain.merge env).listing.entries := by
    have hplain := entries_merge hs' options.vocabulary env
    have hnil : Keyed.without (found.map Found.key) ([] : Keyed Binding) = [] := rfl
    rw [hnil, List.nil_append] at hplain
    exact (entries_merge hs options.vocabulary env).trans (congrArg _ hplain.symm)
  refine ⟨hlisting, fragment_of_append hlisting, ?_, events_merge_eq hs hs' _ env,
    length_trace_merge _ _ env, length_trace_merge _ _ env, fun i f hf => ?_⟩
  · have h := ignored_merge (.ofDefaults options.defaults) options.vocabulary env
    have h' := ignored_merge {} options.vocabulary env
    exact Nat.add_right_cancel (h.trans h'.symm)
  · refine ⟨(fate {} (found.take i) f).outcome,
      (fate (.ofDefaults options.defaults) (found.take i) f).outcome, ?_, ?_, outcomes_of_fate hd⟩
    · refine (getElem?_trace_merge hs' options.vocabulary env i).trans ?_
      exact congrArg (Option.map _) hf
    · refine (getElem?_trace_merge hs options.vocabulary env i).trans ?_
      exact congrArg (Option.map _) hf

/-- The built-in tables: one variable takes the place of a default, another one adds a key. -/
theorem Options.seeding_adds_lines_standard :
    Options.standard.defaults.Built ∧
      (({ Options.standard with seed := true } : Options).merge
          [("API_URL", "/a"), ("FILTER", "f")]).listing.entries.map Prod.fst =
      (["dom_id", "deepLinking", "presets", "plugins", "layout", "requestInterceptor", "url",
        "filter"] : List Text) := by
  have hd : Options.standard.defaults.Built := .ofList _
  refine ⟨hd, ?_⟩
  rw [(Options.seeding_adds_lines Options.standard hd _).1]
  decide +kernel

end UiBootstrap

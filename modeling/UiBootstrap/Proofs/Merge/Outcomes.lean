import UiBootstrap.Proofs.Merge.Trace

/-!
# Outcomes told from the names before them

What became of a variable is decided by what stood under its key when it was read. Where the
vocabulary marks nothing as a default, the variables before it decide that: the first one to set a
key takes the place of a default or is the first value (`outcome_fate_of_not_mem`), and a later one
loses or takes the place of an earlier one (`outcome_fate_of_mem`). So each key has one entry that
is the first for it (`countP_isFirst_merge`), and a key more is listed exactly for each first value
(`size_merge`).
-/

namespace UiBootstrap

variable {found : List Found} {f : Found} {start listing : Listing} {key : Text}

/-- Whether the variable is the first one of the environment to set its key: it is the first value
or takes the place of a default. -/
def Outcome.isFirst : Outcome → Bool
  | .inserted => true
  | .replaced previousDefault => previousDefault
  | .superseded => false

/-- A default for the key stands there before the environment is read. -/
def Options.Seeds (options : Options) (key : Text) : Prop :=
  options.seed = true ∧ key ∈ Keyed.keys options.defaults.entries

/-- The keys that stand at the start are those with a default, if the defaults are wanted. -/
theorem Options.mem_keys_start_iff {options : Options} :
    key ∈ Keyed.keys options.start.entries ↔ options.Seeds key := by
  rw [start, Seeds]
  cases options.seed with
  | true => simp [Listing.keys_ofDefaults]
  | false => simp

/-- As many keys stand at the start as there are defaults, if they are wanted. -/
theorem Options.size_start {options : Options} :
    options.start.size = if options.seed then options.defaults.size else 0 := by
  rw [start]
  cases options.seed with
  | true => simp [Listing.size, Listing.ofDefaults, Defaults.size]
  | false => rfl

/-! ## One outcome -/

/-- A variable is the first value for its key exactly if nothing stands under it. -/
theorem Outcome.of_eq_inserted_iff {schema : VarSchema} {existing : Option Binding} :
    Outcome.of schema existing = .inserted ↔ existing = none := by
  cases existing with
  | none => simp [Outcome.of]
  | some b =>
    rw [Outcome.of]
    split <;> simp

/-- A variable is the first one to set its key exactly if none before it does. -/
theorem isFirst_fate_iff (hs : start.Initial) (hf : ∀ g ∈ found, g.schema.isDefault = false) :
    (fate start found f).outcome.isFirst = true ↔ f.key ∉ found.map Found.key := by
  by_cases h : f.key ∈ found.map Found.key
  · rw [outcome_fate_of_mem hf h]
    cases f.schema.legacy <;> simp [Outcome.isFirst, h]
  · rw [outcome_fate_of_not_mem hs h]
    split <;> simp [Outcome.isFirst, h]

/-- **Every outcome** is told by whether its key stands at the start, whether a variable before sets
it, and whether the variable is a legacy alias. -/
theorem outcome_fate_iff (hs : start.Initial) (hf : ∀ g ∈ found, g.schema.isDefault = false) :
    ((fate start found f).outcome = .inserted ↔
        f.key ∉ Keyed.keys start.entries ∧ f.key ∉ found.map Found.key) ∧
      ((fate start found f).outcome = .replaced true ↔
        f.key ∈ Keyed.keys start.entries ∧ f.key ∉ found.map Found.key) ∧
      ((fate start found f).outcome = .superseded ↔
        f.schema.legacy = true ∧ f.key ∈ found.map Found.key) ∧
      ((fate start found f).outcome = .replaced false ↔
        f.schema.legacy = false ∧ f.key ∈ found.map Found.key) := by
  by_cases h : f.key ∈ found.map Found.key
  · rw [outcome_fate_of_mem hf h]
    cases f.schema.legacy <;> simp [h]
  · rw [outcome_fate_of_not_mem hs h]
    by_cases hk : f.key ∈ Keyed.keys start.entries <;> simp [h, hk]

/-! ## The whole trace -/

/-- **Each key has one first entry**, if any variable sets it. -/
theorem countP_isFirst_merge (hs : start.Initial) {vocabulary : Vocabulary}
    (hv : ∀ name schema, vocabulary.get? name = some schema → schema.isDefault = false)
    (env : Environment) (key : Text) :
    (vocabulary.merge start env).trace.countP (fun t => t.key = key ∧ t.outcome.isFirst) =
      if key ∈ (vocabulary.recognized env).map Found.key then 1 else 0 := by
  have hdef : ∀ g ∈ vocabulary.recognized env, g.schema.isDefault = false :=
    fun g hg => Vocabulary.isDefault_of_mem_recognized hv hg
  revert hdef
  refine Vocabulary.merge_induction_stands hs (P := fun found m =>
    (∀ g ∈ found, g.schema.isDefault = false) →
      m.trace.countP (fun t => t.key = key ∧ t.outcome.isFirst) =
        if key ∈ found.map Found.key then 1 else 0)
    (fun _ => rfl) (fun _ _ h => h) (fun found m f _ hst _ ih hdef => ?_) env
  have hfound : ∀ g ∈ found, g.schema.isDefault = false :=
    fun g hg => hdef g (List.mem_append_left _ hg)
  have hfirst := isFirst_fate_iff (f := f) hs hfound
  rw [Merged.trace_read hst, List.countP_append, ih hfound, List.countP_singleton]
  have hkey : (fate start found f).key = f.key := rfl
  -- The new entry counts for its own key, and there only if no variable before it set that.
  by_cases hk : f.key = key
  · subst hk
    by_cases h : f.key ∈ found.map Found.key
    · have hlater : (fate start found f).outcome.isFirst = false := by simpa [h] using hfirst
      simp [h, hlater]
    · have hnew : (fate start found f).outcome.isFirst = true := hfirst.2 h
      simp [h, hnew, hkey]
  · simp [hkey, hk, Ne.symm hk]

/-- A write adds a key exactly if nothing stands under it. -/
theorem Listing.size_insert (v : Binding) :
    (listing.insert key v).size = listing.size + if listing.get? key = none then 1 else 0 := by
  have hsize : ∀ l : Listing, l.size = (Keyed.keys l.entries).length :=
    fun l => (List.length_map _).symm
  rw [hsize, hsize, insert_eq, Keyed.keys_append, Keyed.keys_erase, List.length_append,
    List.length_erase]
  by_cases hk : key ∈ Keyed.keys listing.entries
  · have hget : listing.get? key ≠ none := fun h => Keyed.get?_eq_none_iff.1 h hk
    have hpos : 0 < (Keyed.keys listing.entries).length := List.length_pos_of_mem hk
    rw [if_pos hk, if_neg hget]
    simp only [Keyed.keys_cons, Keyed.keys_nil, List.length_singleton]
    omega
  · have hget : listing.get? key = none := Keyed.get?_eq_none_iff.2 hk
    rw [if_neg hk, if_pos hget]
    rfl

/-- **A key more is listed for each first value.** -/
theorem size_merge (hs : start.Initial) (vocabulary : Vocabulary) (env : Environment) :
    (vocabulary.merge start env).listing.size =
      start.size + (vocabulary.merge start env).trace.countP (·.outcome = .inserted) := by
  refine Vocabulary.merge_induction_stands hs (P := fun found m =>
    m.listing.size = start.size + m.trace.countP (·.outcome = .inserted))
    rfl (fun _ _ h => h) (fun found m f _ hst _ ih => ?_) env
  rw [Merged.trace_read hst, Merged.listing_read hst, List.countP_append, List.countP_singleton]
  split
  · next hsup => simp [hsup, ih]
  · have hiff : (fate start found f).outcome = .inserted ↔ m.listing.get? f.key = none := by
      rw [hst.get?]
      exact Outcome.of_eq_inserted_iff
    rw [Listing.size_insert, ih]
    simp [hiff, Nat.add_assoc]

/-- **The trace is exact** where the vocabulary marks nothing as a default. It has one entry for
each recognized variable, in order, with its name and key, and all other variables are counted as
ignored. An entry says that its variable is the first value exactly if the key has no default that
is wanted and no variable before sets it; that it took the place of a default exactly if the key has
one and no variable before sets it; that it lost exactly if it is a legacy alias and a variable
before sets its key; and that it took the place of another variable exactly if it is no alias and
one before sets its key. So a key that is set has one first entry and any other key none, and the
keys listed are as many as the defaults that are wanted and the first values. -/
theorem Options.trace_exact (options : Options) (hd : options.defaults.Built)
    (hv : ∀ name schema, options.vocabulary.get? name = some schema → schema.isDefault = false)
    (env : Environment) :
    let found := options.vocabulary.recognized env
    let m := options.merge env
    m.trace.map (fun t => (t.name, t.key)) = found.map (fun f => (f.name, f.key)) ∧
      m.trace.length + m.ignored = env.length ∧
      (∀ i f, found[i]? = some f → ∃ o : Outcome, m.trace[i]? = some ⟨f.name, f.key, o⟩ ∧
        (o = .inserted ↔ ¬ options.Seeds f.key ∧ f.key ∉ (found.take i).map Found.key) ∧
        (o = .replaced true ↔ options.Seeds f.key ∧ f.key ∉ (found.take i).map Found.key) ∧
        (o = .superseded ↔ f.schema.legacy = true ∧ f.key ∈ (found.take i).map Found.key) ∧
        (o = .replaced false ↔ f.schema.legacy = false ∧ f.key ∈ (found.take i).map Found.key)) ∧
      (∀ key, m.trace.countP (fun t => t.key = key ∧ t.outcome.isFirst) =
        if key ∈ found.map Found.key then 1 else 0) ∧
      (Keyed.keys m.listing.entries).Nodup ∧
      m.listing.size = (if options.seed then options.defaults.size else 0) +
        m.trace.countP (·.outcome = .inserted) := by
  intro found m
  have hs := Options.start_initial hd
  refine ⟨names_trace_merge _ _ _, ?_, fun i f hf => ?_, countP_isFirst_merge hs hv env,
    (Stands.merge hs options.vocabulary env).nodup, ?_⟩
  · have hlen : m.trace.length = found.length := length_trace_merge _ _ _
    rw [hlen, Nat.add_comm]
    exact ignored_merge _ _ _
  · refine ⟨(fate options.start (found.take i) f).outcome, ?_, ?_⟩
    · exact (getElem?_trace_merge hs options.vocabulary env i).trans (congrArg (Option.map _) hf)
    · have hdef : ∀ g ∈ found.take i, g.schema.isDefault = false :=
        fun g hg => Vocabulary.isDefault_of_mem_recognized hv (List.mem_of_mem_take hg)
      rw [← Options.mem_keys_start_iff]
      exact outcome_fate_iff hs hdef
  · rw [← Options.size_start]
    exact size_merge hs options.vocabulary env

/-- Where the schemas of a vocabulary are not marked as defaults, none that it gives out is. -/
theorem Vocabulary.isDefault_of_forall_mem {vocabulary : Vocabulary}
    (h : ∀ p ∈ vocabulary.entries, p.2.isDefault = false) (name : Text) (schema : VarSchema)
    (hget : vocabulary.get? name = some schema) : schema.isDefault = false :=
  h (name, schema) (Keyed.mem_of_get? hget)

/-- The built-in tables: a legacy alias that comes last loses, and of the other variables one takes
the place of a default and one adds a key to the seven that have one. -/
theorem Options.trace_exact_standard :
    let options : Options := { Options.standard with seed := true }
    let env : Environment :=
      [("LAYOUT", "L"), ("HOME", "/root"), ("FILTER", "f"), ("URL", "/b"), ("API_URL", "/c")]
    options.defaults.Built ∧
      (∀ name schema, options.vocabulary.get? name = some schema → schema.isDefault = false) ∧
      (options.merge env).trace[3]? = some ⟨"API_URL", "url", .superseded⟩ ∧
      (options.merge env).listing.size = 8 := by
  intro options env
  have hd : options.defaults.Built := .ofList _
  have hv : ∀ name schema, options.vocabulary.get? name = some schema →
      schema.isDefault = false := Vocabulary.isDefault_of_forall_mem (by decide +kernel)
  obtain ⟨-, -, houtcome, -, -, hsize⟩ := Options.trace_exact options hd hv env
  refine ⟨hd, hv, ?_, hsize.trans (by decide +kernel)⟩
  have hfound : (options.vocabulary.recognized env)[3]? =
      some ⟨4, "API_URL", "/c", VarSchema.warning
        "Usage of the `API_URL` environment variable is deprecated. Please use `URL` instead."
        (.asLegacy (.ofType "url" .string))⟩ := by decide +kernel
  obtain ⟨o, ho, -, -, hsuperseded, -⟩ := houtcome 3 _ hfound
  rw [ho, hsuperseded.2 ⟨rfl, by decide +kernel⟩]
  rfl

end UiBootstrap

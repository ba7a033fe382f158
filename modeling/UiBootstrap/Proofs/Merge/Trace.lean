import UiBootstrap.Proofs.Merge.Contest

/-!
# The trace, entry by entry

The trace has one entry for each recognized variable, in order, and the entry says what becomes of a
variable where the winner among those before it stands, or what stood at the start (`fate`). So an
entry can be told from the recognized variables alone (`getElem?_trace_merge`).
-/

namespace UiBootstrap

variable {found : List Found} {f : Found} {start : Listing}

/-- A variable leads to the entry that its fate is. -/
theorem Merged.trace_read {m : Merged} (h : Stands start found m.listing) (f : Found) :
    (m.read f).trace = m.trace ++ [fate start found f] := by
  rw [← h.entry]
  rfl

/-- A variable has the events of its fate. -/
theorem Merged.events_read {m : Merged} (h : Stands start found m.listing) (f : Found) :
    (m.read f).events = m.events ++ (fate start found f).events f.schema := by
  rw [← h.entry]
  rfl

/-- The trace has an entry for each recognized variable, which names it and its key. -/
theorem names_trace_merge (start : Listing) (vocabulary : Vocabulary) (env : Environment) :
    (vocabulary.merge start env).trace.map (fun t => (t.name, t.key)) =
      (vocabulary.recognized env).map fun f => (f.name, f.key) := by
  refine Vocabulary.merge_induction (P := fun found m =>
    m.trace.map (fun t => (t.name, t.key)) = found.map fun f => (f.name, f.key))
    rfl (fun _ _ h => h) (fun found m f _ ih => ?_) env
  simp [Merged.read, ih]

/-- The keys of a trace are those of the recognized variables. -/
theorem keys_trace_merge (start : Listing) (vocabulary : Vocabulary) (env : Environment) :
    (vocabulary.merge start env).trace.map (·.key) = (vocabulary.recognized env).map Found.key := by
  have h := congrArg (List.map Prod.snd) (names_trace_merge start vocabulary env)
  rwa [List.map_map, List.map_map] at h

/-- The trace is as long as the list of recognized variables. -/
theorem length_trace_merge (start : Listing) (vocabulary : Vocabulary) (env : Environment) :
    (vocabulary.merge start env).trace.length = (vocabulary.recognized env).length := by
  have h := congrArg List.length (names_trace_merge start vocabulary env)
  simpa using h

/-- **The trace, entry by entry.** -/
theorem getElem?_trace_merge (hs : start.Initial) (vocabulary : Vocabulary) (env : Environment) :
    ∀ i : Nat, (vocabulary.merge start env).trace[i]? = (vocabulary.recognized env)[i]?.map
      (fate start ((vocabulary.recognized env).take i)) := by
  refine Vocabulary.merge_induction_stands hs (P := fun found m =>
    ∀ i : Nat, m.trace[i]? = found[i]?.map (fate start (found.take i)))
    (fun i => by simp) (fun _ _ h => h) (fun found m f _ hst hkeys ih i => ?_) env
  have hlen : m.trace.length = found.length := by simpa using congrArg List.length hkeys
  rw [Merged.trace_read hst]
  rcases Nat.lt_trichotomy i found.length with hi | rfl | hi
  · rw [List.getElem?_append_left (hlen ▸ hi), List.getElem?_append_left hi, ih,
      List.take_append_of_le_length (Nat.le_of_lt hi)]
  · simp [← hlen]
  · rw [List.getElem?_eq_none (by simp [hlen]; omega), List.getElem?_eq_none (by simp; omega)]
    rfl

/-! ## What becomes of a variable -/

/-- The first variable that sets a key meets what stands under it at the start. -/
theorem fate_of_not_mem (h : f.key ∉ found.map Found.key) :
    fate start found f = ⟨f.name, f.key, .of f.schema (start.get? f.key)⟩ := by
  rw [fate, standing, rivals_eq_nil_iff.2 h]
  rfl

/-- It takes the place of a default, or is the first value if the key has none. -/
theorem outcome_fate_of_not_mem (hs : start.Initial) (h : f.key ∉ found.map Found.key) :
    (fate start found f).outcome =
      if f.key ∈ Keyed.keys start.entries then .replaced true else .inserted := by
  rw [fate_of_not_mem h]
  cases hb : start.get? f.key with
  | none => rw [if_neg (Keyed.get?_eq_none_iff.1 hb), Outcome.of]
  | some b =>
    have hk : f.key ∈ Keyed.keys start.entries := by
      by_contra hk
      exact Option.some_ne_none b (hb.symm.trans (Keyed.get?_eq_none_iff.2 hk))
    have hdef : b.schema.isDefault = true := hs.isDefault (f.key, b) (Keyed.mem_of_get? hb)
    rw [if_pos hk]
    simp [Outcome.of, hdef]

/-- A later variable loses if it is a legacy alias, and otherwise takes the place of an earlier one,
where the schemas of the earlier ones are not marked as defaults. -/
theorem outcome_fate_of_mem (hf : ∀ g ∈ found, g.schema.isDefault = false)
    (h : f.key ∈ found.map Found.key) :
    (fate start found f).outcome =
      if f.schema.legacy then .superseded else .replaced false := by
  rw [fate, standing]
  cases hw : winner? (rivals f.key found) with
  | none => exact absurd h (rivals_eq_nil_iff.1 (winner?_eq_none_iff.1 hw))
  | some w =>
    have hdef : w.schema.isDefault = false := hf w (mem_of_winner?_rivals hw).1
    simp [Outcome.of, Found.binding, hdef]

/-! ## Values leave no trace -/

/-- The schema of the winner depends on the schemas of the rivals alone. -/
theorem winner?_schema_congr {fs gs : List Found}
    (h : fs.map Found.schema = gs.map Found.schema) :
    (winner? fs).map Found.schema = (winner? gs).map Found.schema := by
  induction fs using List.reverseRecOn generalizing gs with
  | nil =>
    obtain rfl : gs = [] := List.map_eq_nil_iff.1 h.symm
    rfl
  | append_singleton fs f ih =>
    rw [List.map_append] at h
    obtain ⟨gs, last, rfl, hgs, hlast⟩ := List.map_eq_append_iff.1 h.symm
    obtain ⟨g, rfl, hg⟩ := List.map_eq_singleton_iff.1 hlast
    have hw := ih hgs.symm
    have hany := congrArg (Option.any fun schema => !schema.isDefault) hw
    rw [Option.any_map, Option.any_map] at hany
    change (winner? fs).any (fun w => !w.schema.isDefault) =
      (winner? gs).any (fun w => !w.schema.isDefault) at hany
    rw [winner?_concat, winner?_concat, hany, hg]
    split
    · exact hw
    · simp [hg]

/-- What becomes of a variable depends on the schema alone of what stands under its key. -/
theorem Outcome.of_congr {schema : VarSchema} {b b' : Option Binding}
    (h : b.map (·.schema) = b'.map (·.schema)) : Outcome.of schema b = Outcome.of schema b' := by
  cases b with
  | none =>
    cases b' with
    | none => rfl
    | some b' => cases h
  | some b =>
    cases b' with
    | none => cases h
    | some b' =>
      have hschema : b.schema = b'.schema := Option.some.inj h
      rw [Outcome.of, Outcome.of, hschema]

/-- The schema of what stands under a key depends on the schemas of the variables alone. -/
theorem standing_schema_congr {found' : List Found}
    (h : found.map Found.schema = found'.map Found.schema) (key : Text) :
    (standing start found key).map (·.schema) = (standing start found' key).map (·.schema) := by
  have hrivals : (rivals key found).map Found.schema = (rivals key found').map Found.schema := by
    have hfilter := congrArg (List.filter fun schema => schema.key = key) h
    rwa [List.filter_map, List.filter_map] at hfilter
  rw [standing, standing, Option.map_or, Option.map_or, Option.map_map, Option.map_map]
  exact congrArg (Option.or · _) (winner?_schema_congr hrivals)

/-- What becomes of a variable depends on the names and schemas of the variables alone. -/
theorem fate_congr {earlier earlier' : List Found} {f f' : Found}
    (h : earlier.map Found.schema = earlier'.map Found.schema) (hname : f.name = f'.name)
    (hschema : f.schema = f'.schema) : fate start earlier f = fate start earlier' f' := by
  have hkey : f.key = f'.key := congrArg VarSchema.key hschema
  rw [fate, fate, ← hname, ← hschema, ← hkey,
    Outcome.of_congr (standing_schema_congr h f.key)]

/-- **Values leave no trace**: two environments with the same names and schemas of recognized
variables have the same trace. -/
theorem trace_merge_congr (hs : start.Initial) {vocabulary : Vocabulary} {env env' : Environment}
    (h : (vocabulary.recognized env).map (fun f => (f.name, f.schema)) =
      (vocabulary.recognized env').map fun f => (f.name, f.schema)) :
    (vocabulary.merge start env).trace = (vocabulary.merge start env').trace := by
  refine List.ext_getElem? fun i => ?_
  rw [getElem?_trace_merge hs, getElem?_trace_merge hs]
  have hi := congrArg (·[i]?) h
  have htake := congrArg (fun l => (l.take i).map Prod.snd) h
  simp only [List.getElem?_map, ← List.map_take, List.map_map] at hi htake
  cases hf : (vocabulary.recognized env)[i]? with
  | none =>
    rw [hf] at hi
    rw [Option.map_eq_none_iff.1 hi.symm]
    rfl
  | some f =>
    rw [hf] at hi
    obtain ⟨f', hf', heq⟩ := Option.map_eq_some_iff.1 hi.symm
    rw [hf', Option.map_some, Option.map_some]
    exact congrArg some (fate_congr htake (congrArg Prod.fst heq).symm (congrArg Prod.snd heq).symm)

/-- **What the outside world is told** can be told from the trace and the schemas of the recognized
variables. -/
theorem events_merge (hs : start.Initial) (vocabulary : Vocabulary) (env : Environment) :
    (vocabulary.merge start env).events = ((vocabulary.merge start env).trace.zip
      ((vocabulary.recognized env).map Found.schema)).flatMap fun p => p.1.events p.2 := by
  refine Vocabulary.merge_induction_stands hs (P := fun found m =>
    m.events = (m.trace.zip (found.map Found.schema)).flatMap fun p => p.1.events p.2)
    rfl (fun _ _ h => h) (fun found m f _ hst hkeys ih => ?_) env
  have hlen : m.trace.length = (found.map Found.schema).length := by
    simpa using congrArg List.length hkeys
  rw [Merged.trace_read hst, Merged.events_read hst, List.map_append, List.zip_append hlen,
    List.flatMap_append, ih]
  simp

/-- Every variable of an environment is recognized or counted as ignored. -/
theorem ignored_merge (start : Listing) (vocabulary : Vocabulary) (env : Environment) :
    (vocabulary.merge start env).ignored + (vocabulary.recognized env).length = env.length := by
  induction env using List.reverseRecOn with
  | nil => rfl
  | append_singleton env p ih =>
    obtain ⟨name, value⟩ := p
    rw [Vocabulary.recognized_append, Vocabulary.recognizedFrom_cons]
    cases h : vocabulary.get? name with
    | none =>
      rw [Vocabulary.merge_concat_of_none env h, Merged.pass]
      simp
      omega
    | some schema =>
      rw [Vocabulary.merge_concat_of_some env h, Merged.read]
      simp
      omega

end UiBootstrap

import UiBootstrap.Proofs.Merge.Explanation

/-!
# What an environment cannot influence

Two environments in which the same names are recognized, in the same order, are read by the same
steps, however many other variables stand between them and whatever the values are: they have the
same trace (`trace_merge_congr`) and tell the outside world the same (`events_merge`). Their
listings have the same keys in the same order (`keys_merge_congr`), so they are equal as soon as the
winning variables agree on their values (`listing_merge_congr`): no other value is left in them.
-/

namespace UiBootstrap

variable {entries entries' : List (TraceEntry × Found)} {f : Found} {t : TraceEntry}
  {start : Listing} {before : Keyed Binding} {vocabulary : Vocabulary} {env env' : Environment}

/-- The same names are recognized in two environments, in the same order. -/
def Vocabulary.SameNames (vocabulary : Vocabulary) (env env' : Environment) : Prop :=
  (vocabulary.recognized env).map Found.name = (vocabulary.recognized env').map Found.name

instance : Decidable (vocabulary.SameNames env env') := inferInstanceAs (Decidable (_ = _))

/-- The variables of the last entries that are not superseded agree on their values, for each key.
-/
def SameWinners (entries entries' : List (TraceEntry × Found)) : Prop :=
  ∀ key f f', LastAccepted key entries f → LastAccepted key entries' f' → f.value = f'.value

/-! ## The same names -/

/-- The name of a variable tells its schema. -/
theorem Vocabulary.SameNames.schemas (h : vocabulary.SameNames env env') :
    (vocabulary.recognized env).map (fun f => (f.name, f.schema)) =
      (vocabulary.recognized env').map fun f => (f.name, f.schema) := by
  have hget : ∀ env, (vocabulary.recognized env).map (fun f => (f.name, f.schema)) =
      ((vocabulary.recognized env).map Found.name).filterMap fun name =>
        (vocabulary.get? name).map fun schema => (name, schema) := fun env => by
    rw [List.filterMap_map, ← List.filterMap_eq_map]
    refine List.filterMap_congr fun f hf => ?_
    rw [Function.comp_apply, Function.comp_apply, (mem_recognizedFrom hf).2.2]
    rfl
  rw [hget, hget, h]

/-- Their schemas are the same, in the same order. -/
theorem Vocabulary.SameNames.map_schema (h : vocabulary.SameNames env env') :
    (vocabulary.recognized env).map Found.schema =
      (vocabulary.recognized env').map Found.schema := by
  have hsnd := congrArg (List.map Prod.snd) h.schemas
  rwa [List.map_map, List.map_map] at hsnd

/-- They set the same keys, in the same order. -/
theorem Vocabulary.SameNames.map_key (h : vocabulary.SameNames env env') :
    (vocabulary.recognized env).map Found.key = (vocabulary.recognized env').map Found.key := by
  have hkey := congrArg (List.map VarSchema.key) h.map_schema
  rwa [List.map_map, List.map_map] at hkey

/-- The outside world is told the same. -/
theorem events_merge_congr (hs : start.Initial) (h : vocabulary.SameNames env env') :
    (vocabulary.merge start env).events = (vocabulary.merge start env').events := by
  rw [events_merge hs, events_merge hs, trace_merge_congr hs h.schemas, h.map_schema]

/-! ## The same winners -/

/-- The keys of accepted values are those of the entries that are not superseded. -/
theorem keys_accepted : Keyed.keys (accepted entries) = (entries.map Prod.fst).filterMap fun t =>
    if t.outcome = .superseded then none else some t.key := by
  rw [Keyed.keys, accepted, List.map_filterMap, List.filterMap_map]
  refine List.filterMap_congr fun p _ => ?_
  by_cases h : p.1.outcome = .superseded <;> simp [h]

/-- The keys that are told of, and their order, depend on the trace alone. -/
theorem keys_told_congr (h : entries.map Prod.fst = entries'.map Prod.fst) :
    Keyed.keys (told before entries) = Keyed.keys (told before entries') := by
  have hkeys : (entries.map fun p => p.1.key) = entries'.map fun p => p.1.key := by
    have hfst := congrArg (List.map (·.key)) h
    rwa [List.map_map, List.map_map] at hfst
  rw [told, told, Keyed.keys_append, Keyed.keys_append, Keyed.keys_latest, Keyed.keys_latest,
    keys_accepted, keys_accepted, h, hkeys]

/-- The keys of the listings are the same, in the same order. -/
theorem keys_merge_congr (hs : start.Initial) (h : vocabulary.SameNames env env') :
    Keyed.keys (vocabulary.merge start env).listing.entries =
      Keyed.keys (vocabulary.merge start env').listing.entries := by
  rw [entries_merge_told hs, entries_merge_told hs]
  refine keys_told_congr ?_
  rw [List.map_fst_zip (Nat.le_of_eq (length_trace_merge start vocabulary env)),
    List.map_fst_zip (Nat.le_of_eq (length_trace_merge start vocabulary env')),
    trace_merge_congr hs h.schemas]

/-- The same is listed under every key if the winners are the same. -/
theorem get?_merge_congr (hs : start.Initial) (h : vocabulary.SameNames env env')
    (hw : SameWinners ((vocabulary.merge start env).trace.zip (vocabulary.recognized env))
      ((vocabulary.merge start env').trace.zip (vocabulary.recognized env'))) (key : Text) :
    (vocabulary.merge start env).listing.get? key =
      (vocabulary.merge start env').listing.get? key := by
  have hst := Stands.merge hs vocabulary env
  have hst' := Stands.merge hs vocabulary env'
  -- Under a key that is set stands the winner, under any other what stood there at the start.
  by_cases hkey : key ∈ (vocabulary.recognized env).map Found.key
  · obtain ⟨f, hf, hget⟩ := exists_lastAccepted hs vocabulary env hkey
    obtain ⟨f', hf', hget'⟩ := exists_lastAccepted hs vocabulary env' (h.map_key ▸ hkey)
    have hschemas : ((vocabulary.merge start env).listing.get? key).map (·.schema) =
        ((vocabulary.merge start env').listing.get? key).map (·.schema) := by
      rw [hst.get?, hst'.get?]
      exact standing_schema_congr h.map_schema key
    rw [hget, hget'] at hschemas ⊢
    have hvalue : f.value = f'.value := hw key f f' hf hf'
    have hschema : f.schema = f'.schema := Option.some.inj hschemas
    rw [Found.binding, Found.binding, hvalue, hschema]
  · have hkey' : key ∉ (vocabulary.recognized env').map Found.key := h.map_key ▸ hkey
    rw [hst.get?, hst'.get?, standing, standing, rivals_eq_nil_iff.2 hkey,
      rivals_eq_nil_iff.2 hkey']

/-- **Nothing but the winning values is left in the listing.** -/
theorem listing_merge_congr (hs : start.Initial) (h : vocabulary.SameNames env env')
    (hw : SameWinners ((vocabulary.merge start env).trace.zip (vocabulary.recognized env))
      ((vocabulary.merge start env').trace.zip (vocabulary.recognized env'))) :
    (vocabulary.merge start env).listing = (vocabulary.merge start env').listing :=
  congrArg Listing.mk (Keyed.ext_get? (keys_merge_congr hs h)
    (Stands.merge hs vocabulary env).nodup (get?_merge_congr hs h hw))

/-- What the fragment is made from is the listing and the events. -/
theorem Options.fragment_congr {options : Options}
    (hlisting : (options.merge env).listing = (options.merge env').listing)
    (hevents : (options.merge env).events = (options.merge env').events) :
    options.fragment env = options.fragment env' := by
  simp only [fragment, resolve, Logged.map, hlisting, hevents]

/-! ## Variables without influence -/

/-- An unrecognized variable in the middle of an environment is counted, and nothing else. -/
theorem merge_append_cons_of_none {name : Text} (h : vocabulary.get? name = none)
    (env rest : Environment) (value : Text) :
    vocabulary.merge start (env ++ (name, value) :: rest) =
      (vocabulary.merge start (env ++ rest)).pass := by
  rw [Vocabulary.merge_append, Vocabulary.merge_append]
  simp [Vocabulary.merge, h, Merged.pass, Nat.add_assoc]

/-- An entry that does not win is lost. -/
theorem lost_of_not_lastAccepted {earlier later : List (TraceEntry × Found)}
    (h : ¬ LastAccepted t.key (earlier ++ (t, f) :: later) f) : Lost t later := by
  by_contra hlost
  obtain ⟨hout, hlater⟩ := not_or.1 hlost
  refine h ⟨earlier, t, later, rfl, rfl, hout, fun p hp hkey => ?_⟩
  by_contra hp'
  exact hlater ⟨p, hp, hkey, hp'⟩

/-- Next to a variable stands the entry that names its key. -/
theorem key_eq_of_mem_zip (hs : start.Initial)
    (h : (t, f) ∈ (vocabulary.merge start env).trace.zip (vocabulary.recognized env)) :
    t.key = f.key := by
  obtain ⟨i, hi⟩ := List.mem_iff_getElem?.1 h
  obtain ⟨ht, hf⟩ := List.getElem?_zip_eq_some.1 hi
  rw [getElem?_trace_merge hs, hf] at ht
  exact congrArg TraceEntry.key (Option.some.inj ht).symm

/-- Another value for a variable that does not win leaves the listing as it is. -/
theorem listing_merge_set (hs : start.Initial) (hf : f ∈ vocabulary.recognized env)
    (h : ¬ LastAccepted f.key
      ((vocabulary.merge start env).trace.zip (vocabulary.recognized env)) f) (value : Text) :
    (vocabulary.merge start (env.set f.place (f.name, value))).listing =
      (vocabulary.merge start env).listing := by
  have hlen := Nat.le_of_eq (length_trace_merge start vocabulary env).symm
  rw [← List.map_snd_zip hlen] at hf
  obtain ⟨⟨t, g⟩, hmem, rfl⟩ := List.mem_map.1 hf
  rw [← key_eq_of_mem_zip hs hmem] at h
  obtain ⟨earlier, later, hzip⟩ := List.append_of_mem hmem
  have hlost : Lost t later := lost_of_not_lastAccepted (hzip ▸ h)
  have hentries := entries_merge_of_lost hs hzip hlost
  have hset := entries_merge_of_lost hs (zip_merge_set hs hzip value) hlost
  exact congrArg Listing.mk (hset.trans hentries.symm)

/-- **Noninterference.** Two environments in which the same names are recognized, in the same order,
have the same trace and the same events, and in each as many variables are ignored as are not
recognized; if the winning variables agree on their values, the listings and the fragments are the
same too. So an unrecognized variable does nothing but raise the count: what is left without it is
the same, whatever its value. And the value of a recognized variable that does not win never gets
into the listing or the fragment. -/
theorem Options.noninterference (options : Options) (hd : options.defaults.Built) :
    (∀ env env' : Environment, options.vocabulary.SameNames env env' →
      let found := options.vocabulary.recognized env
      let found' := options.vocabulary.recognized env'
      let m := options.merge env
      let m' := options.merge env'
      m.trace = m'.trace ∧ m.events = m'.events ∧
        m.ignored + found.length = env.length ∧ m'.ignored + found'.length = env'.length ∧
        (SameWinners (m.trace.zip found) (m'.trace.zip found') →
          m.listing = m'.listing ∧ options.fragment env = options.fragment env')) ∧
    (∀ (env rest : Environment) (name value : Text), options.vocabulary.get? name = none →
      options.merge (env ++ (name, value) :: rest) = (options.merge (env ++ rest)).pass ∧
      options.fragment (env ++ (name, value) :: rest) = options.fragment (env ++ rest)) ∧
    ∀ (env : Environment) (f : Found), f ∈ options.vocabulary.recognized env →
      ¬ LastAccepted f.key
        ((options.merge env).trace.zip (options.vocabulary.recognized env)) f →
      ∀ value, (options.merge (env.set f.place (f.name, value))).listing =
          (options.merge env).listing ∧
        (options.fragment (env.set f.place (f.name, value))).value =
          (options.fragment env).value := by
  have hs := Options.start_initial hd
  refine ⟨fun env env' h => ⟨trace_merge_congr hs h.schemas, events_merge_congr hs h,
    ignored_merge _ _ _, ignored_merge _ _ _, fun hw => ?_⟩, fun env rest name value h => ?_,
    fun env f hf hlast value => ?_⟩
  · have hlisting : (options.merge env).listing = (options.merge env').listing :=
      listing_merge_congr hs h hw
    have hevents : (options.merge env).events = (options.merge env').events :=
      events_merge_congr hs h
    exact ⟨hlisting, Options.fragment_congr hlisting hevents⟩
  · have hmerge : options.merge (env ++ (name, value) :: rest) =
        (options.merge (env ++ rest)).pass := merge_append_cons_of_none h env rest value
    exact ⟨hmerge, Options.fragment_congr (by rw [hmerge]; rfl) (by rw [hmerge]; rfl)⟩
  · have hlisting : (options.merge (env.set f.place (f.name, value))).listing =
        (options.merge env).listing := listing_merge_set hs hf hlast value
    exact ⟨hlisting, congrArg Listing.fragment hlisting⟩

/-- The built-in tables: neither the variables that are not recognized nor the first of two values
for one key make a difference. -/
theorem Options.noninterference_standard :
    let env : Environment := [("URL", "/a"), ("HOME", "/root"), ("URL", "/b")]
    let env' : Environment := [("URL", "/c"), ("URL", "/b"), ("OAUTH_CLIENT_SECRET", "s")]
    Options.standard.defaults.Built ∧ Options.standard.vocabulary.SameNames env env' ∧
      Options.standard.fragment env = Options.standard.fragment env' ∧
      (Options.standard.fragment (env.set 0 ("URL", "/d"))).value =
        (Options.standard.fragment env).value := by
  intro env env'
  have hd : Options.standard.defaults.Built := .ofList _
  have hnames : Options.standard.vocabulary.SameNames env env' := by decide +kernel
  let first : TraceEntry := ⟨"URL", "url", .inserted⟩
  let last : TraceEntry := ⟨"URL", "url", .replaced false⟩
  let found (place : Nat) (value : Text) : Found := ⟨place, "URL", value, .ofType "url" .string⟩
  have hzip : (Options.standard.merge env).trace.zip (Options.standard.vocabulary.recognized env) =
      [(first, found 0 "/a")] ++ [(last, found 2 "/b")] := by decide +kernel
  have hzip' :
      (Options.standard.merge env').trace.zip (Options.standard.vocabulary.recognized env') =
        [(first, found 0 "/c")] ++ [(last, found 1 "/b")] := by decide +kernel
  have hlast : ∀ (i : Nat) (value : Text),
      LastAccepted "url" ([(first, found 0 value)] ++ [(last, found i "/b")]) (found i "/b") :=
    fun i value => .concat_self (t := last) nofun
  obtain ⟨hsame, -, hlose⟩ := Options.noninterference Options.standard hd
  obtain ⟨-, -, -, -, hfragment⟩ := hsame env env' hnames
  refine ⟨hd, hnames, (hfragment fun key f f' hf hf' => ?_).2, ?_⟩
  · rw [hzip] at hf
    rw [hzip'] at hf'
    obtain ⟨t, ht, hkey, -⟩ := hf.mem
    have hurl : key = "url" := by
      simp only [List.cons_append, List.nil_append, List.mem_cons, Prod.mk.injEq,
        List.not_mem_nil, or_false] at ht
      rcases ht with ⟨rfl, -⟩ | ⟨rfl, -⟩ <;> exact hkey.symm
    subst hurl
    rw [hf.unique (hlast 2 "/a"), hf'.unique (hlast 1 "/c")]
  · have hmem : found 0 "/a" ∈ Options.standard.vocabulary.recognized env := by decide +kernel
    refine (hlose env (found 0 "/a") hmem (fun h => ?_) "/d").2
    rw [hzip] at h
    have hplaces := congrArg Found.place (h.unique (hlast 2 "/a"))
    exact absurd hplaces (by decide)

end UiBootstrap

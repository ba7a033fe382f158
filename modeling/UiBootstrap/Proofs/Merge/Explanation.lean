import UiBootstrap.Resolution
import UiBootstrap.Proofs.Merge.Trace

/-!
# The trace explains the listing

Next to each entry of a trace stands the variable that it is about, and from these pairs the listing
can be told (`told`): what no entry touches, and then the value of the last entry for each key that
is not superseded, in the order of these entries. So an entry that is superseded, or behind which
another one for its key is accepted, is lost (`Lost`): without it the same is told, and its variable
may have any value (`Options.trace_explains_listing`).
-/

namespace UiBootstrap

variable {entries earlier later : List (TraceEntry × Found)} {found : List Found} {f : Found}
  {t : TraceEntry} {start : Listing} {before : Keyed Binding}

/-- What the entries put into the listing that are not superseded. -/
def accepted (entries : List (TraceEntry × Found)) : Keyed Binding :=
  entries.filterMap fun (t, f) =>
    if t.outcome = .superseded then none else some (t.key, f.binding)

/-- **The listing that a trace tells of.** What stood there before and no entry touches, and then
the last accepted value for each key. -/
def told (before : Keyed Binding) (entries : List (TraceEntry × Found)) : Keyed Binding :=
  before.without (entries.map fun p => p.1.key) ++ (accepted entries).latest

/-- The last entry for a key that is not superseded stands for this variable. -/
def LastAccepted (key : Text) (entries : List (TraceEntry × Found)) (f : Found) : Prop :=
  ∃ earlier t later, entries = earlier ++ (t, f) :: later ∧ t.key = key ∧
    t.outcome ≠ .superseded ∧ ∀ p ∈ later, p.1.key = key → p.1.outcome = .superseded

/-- The entry is superseded, or one behind it for the same key is not. -/
def Lost (t : TraceEntry) (later : List (TraceEntry × Found)) : Prop :=
  t.outcome = .superseded ∨ ∃ p ∈ later, p.1.key = t.key ∧ p.1.outcome ≠ .superseded

/-! ## What is told -/

@[simp] theorem accepted_nil : accepted [] = [] := rfl

/-- Entries behind others put their values behind the others' values. -/
theorem accepted_append : accepted (earlier ++ later) = accepted earlier ++ accepted later := by
  rw [accepted, List.filterMap_append]
  rfl

/-- A superseded entry puts in nothing. -/
theorem accepted_cons_of_superseded (h : t.outcome = .superseded) :
    accepted ((t, f) :: entries) = accepted entries := by
  simp [accepted, h]

/-- Any other entry puts in its variable's value. -/
theorem accepted_cons_of_not_superseded (h : t.outcome ≠ .superseded) :
    accepted ((t, f) :: entries) = (t.key, f.binding) :: accepted entries := by
  simp [accepted, h]

/-- A superseded entry changes nothing if its key has been told of. -/
theorem told_concat_of_superseded (h : t.outcome = .superseded)
    (hkey : t.key ∈ entries.map fun p => p.1.key) :
    told before (entries ++ [(t, f)]) = told before entries := by
  rw [told, List.map_append, List.map_singleton, Keyed.without_concat_of_mem hkey, accepted_append,
    accepted_cons_of_superseded h, accepted_nil, List.append_nil, told]

/-- Any other entry drops what was told under its key, and tells of its variable's value at the end.
-/
theorem told_concat_of_not_superseded (h : t.outcome ≠ .superseded) :
    told before (entries ++ [(t, f)]) =
      (told before entries).filter (fun p => p.1 ≠ t.key) ++ [(t.key, f.binding)] := by
  rw [told, List.map_append, List.map_singleton, Keyed.without_concat, accepted_append,
    accepted_cons_of_not_superseded h, accepted_nil, Keyed.latest_concat, told,
    List.filter_append, List.append_assoc]

/-- **The listing, told from the trace.** -/
theorem entries_merge_told (hs : start.Initial) (vocabulary : Vocabulary) (env : Environment) :
    (vocabulary.merge start env).listing.entries = told start.entries
      ((vocabulary.merge start env).trace.zip (vocabulary.recognized env)) := by
  refine Vocabulary.merge_induction_stands hs (P := fun found m =>
    m.listing.entries = told start.entries (m.trace.zip found))
    (by simp [told, Keyed.latest]) (fun _ _ h => h) (fun found m f _ hst hkeys ih => ?_) env
  have hlen : m.trace.length = found.length := by simpa using congrArg List.length hkeys
  rw [Merged.trace_read hst, List.zip_append hlen, Merged.listing_read hst]
  change _ = told start.entries (m.trace.zip found ++ [(fate start found f, f)])
  split
  · next hsup =>
    have hmem : f.key ∈ (m.trace.zip found).map fun p => p.1.key := by
      have hzip := congrArg (List.map (·.key)) (List.map_fst_zip (Nat.le_of_eq hlen))
      rw [List.map_map, hkeys] at hzip
      exact hzip ▸ key_mem_of_superseded hs hsup
    rw [told_concat_of_superseded hsup hmem, ih]
  · next hsup =>
    rw [told_concat_of_not_superseded hsup, ← ih]
    exact Listing.entries_insert hst.nodup

/-! ## The last accepted entry -/

/-- An entry that is not superseded is the last one if nothing follows. -/
theorem LastAccepted.concat_self (h : t.outcome ≠ .superseded) :
    LastAccepted t.key (entries ++ [(t, f)]) f :=
  ⟨entries, t, [], rfl, rfl, h, by simp⟩

/-- An entry for another key, or a superseded one, does not matter. -/
theorem LastAccepted.concat {key : Text} {g : Found} (h : LastAccepted key entries g)
    (ht : t.key = key → t.outcome = .superseded) : LastAccepted key (entries ++ [(t, f)]) g := by
  obtain ⟨earlier, u, later, rfl, hkey, hout, hlater⟩ := h
  refine ⟨earlier, u, later ++ [(t, f)], by simp, hkey, hout, fun p hp => ?_⟩
  rcases List.mem_append.1 hp with hp | hp
  · exact hlater p hp
  · obtain rfl := List.mem_singleton.1 hp
    exact ht

/-- For each key that a trace mentions there is a last entry that is not superseded, and it is the
one whose value is listed. -/
theorem exists_lastAccepted (hs : start.Initial) (vocabulary : Vocabulary) (env : Environment)
    {key : Text} (hkey : key ∈ (vocabulary.recognized env).map Found.key) :
    ∃ f, LastAccepted key
        ((vocabulary.merge start env).trace.zip (vocabulary.recognized env)) f ∧
      (vocabulary.merge start env).listing.get? key = some f.binding := by
  revert hkey
  refine Vocabulary.merge_induction_stands hs (P := fun found m => key ∈ found.map Found.key →
    ∃ f, LastAccepted key (m.trace.zip found) f ∧ m.listing.get? key = some f.binding)
    (fun h => by cases h) (fun _ _ h => h) (fun found m f _ hst hkeys ih hkey => ?_) env
  have hlen : m.trace.length = found.length := by simpa using congrArg List.length hkeys
  rw [Merged.trace_read hst, List.zip_append hlen, Merged.listing_read hst]
  -- The new entry decides its own key if it is accepted; otherwise the old one goes on to decide.
  by_cases hnew : f.key = key ∧ (fate start found f).outcome ≠ .superseded
  · obtain ⟨rfl, hsup⟩ := hnew
    have hlast : LastAccepted f.key (m.trace.zip found ++ [(fate start found f, f)]) f :=
      .concat_self hsup
    refine ⟨f, hlast, ?_⟩
    rw [if_neg hsup]
    exact Listing.get?_insert_self hst.nodup
  · have hold : key ∈ found.map Found.key := by
      rw [List.map_append, List.mem_append, List.map_singleton, List.mem_singleton] at hkey
      rcases hkey with hkey | rfl
      · exact hkey
      · by_contra hmem
        exact hnew ⟨rfl, fun hsup => hmem (key_mem_of_superseded hs hsup)⟩
    obtain ⟨g, hlast, hget⟩ := ih hold
    refine ⟨g, hlast.concat fun hk => ?_, ?_⟩
    · by_contra hsup
      exact hnew ⟨hk, hsup⟩
    · split
      · exact hget
      · next hsup =>
        have hne : key ≠ f.key := fun h => hnew ⟨h.symm, hsup⟩
        exact (Listing.get?_insert_of_ne hne).trans hget

/-- It is one of the entries. -/
theorem LastAccepted.mem {key : Text} (h : LastAccepted key entries f) :
    ∃ t, (t, f) ∈ entries ∧ t.key = key ∧ t.outcome ≠ .superseded := by
  obtain ⟨earlier, u, later, rfl, hkey, hout, -⟩ := h
  exact ⟨u, List.mem_append_right _ List.mem_cons_self, hkey, hout⟩

/-- There is only one. -/
theorem LastAccepted.unique {key : Text} {g : Found} (h : LastAccepted key entries f)
    (h' : LastAccepted key entries g) : f = g := by
  obtain ⟨before, t, after, rfl, ht, hout, hafter⟩ := h
  obtain ⟨before', u, after', heq, hu, hout', hafter'⟩ := h'
  -- Of two different entries one stands behind the other, where all are superseded.
  rcases List.append_eq_append_iff.1 heq with ⟨between, -, hb⟩ | ⟨between, -, hb⟩
  · cases between with
    | nil => exact (Prod.mk.inj (List.cons.inj hb).1).2
    | cons p between =>
      have hmem : (u, g) ∈ after := (List.cons.inj hb).2 ▸ by simp
      exact absurd (hafter _ hmem hu) hout'
  · cases between with
    | nil => exact (Prod.mk.inj (List.cons.inj hb).1).2.symm
    | cons p between =>
      have hmem : (t, f) ∈ after' := (List.cons.inj hb).2 ▸ by simp
      exact absurd (hafter' _ hmem ht) hout

/-! ## Lost entries -/

/-- What is told without a lost entry, if its key is told of elsewhere. -/
theorem told_of_lost (h : Lost t later)
    (hkey : t.key ∈ (earlier ++ later).map fun p => p.1.key) :
    told before (earlier ++ (t, f) :: later) = told before (earlier ++ later) := by
  have hwithout : before.without ((earlier ++ (t, f) :: later).map fun p => p.1.key) =
      before.without ((earlier ++ later).map fun p => p.1.key) := by
    rw [List.map_append] at hkey
    refine Keyed.without_congr fun k => ?_
    rw [List.map_append, List.map_cons, List.map_append]
    exact List.perm_middle.mem_iff.trans
      (List.mem_cons.trans ⟨fun h => h.elim (· ▸ hkey) id, .inr⟩)
  have hlatest : (accepted (earlier ++ (t, f) :: later)).latest =
      (accepted (earlier ++ later)).latest := by
    rw [accepted_append, accepted_append]
    by_cases hsup : t.outcome = .superseded
    · rw [accepted_cons_of_superseded hsup]
    · obtain ⟨p, hp, hpkey, hpout⟩ := h.resolve_left hsup
      rw [accepted_cons_of_not_superseded hsup]
      refine Keyed.latest_append_cons_of_mem (List.mem_map.2 ⟨(p.1.key, p.2.binding), ?_, hpkey⟩)
      exact List.mem_filterMap.2 ⟨p, hp, if_neg hpout⟩
  rw [told, told, hwithout, hlatest]

/-- The key of a lost entry is the key of another one. -/
theorem key_mem_of_lost (hs : start.Initial) {vocabulary : Vocabulary} {env : Environment}
    (hzip : (vocabulary.merge start env).trace.zip (vocabulary.recognized env) =
      earlier ++ (t, f) :: later)
    (h : Lost t later) : t.key ∈ (earlier ++ later).map fun p => p.1.key := by
  rcases h with hsup | ⟨p, hp, hpkey, -⟩
  · have hmem : t.key ∈ (vocabulary.recognized env).map Found.key := by
      have ht : t ∈ (vocabulary.merge start env).trace :=
        (List.of_mem_zip (hzip ▸ List.mem_append_right _ List.mem_cons_self)).1
      exact keys_trace_merge start vocabulary env ▸ List.mem_map_of_mem ht
    obtain ⟨w, hw, -⟩ := exists_lastAccepted hs vocabulary env hmem
    obtain ⟨u, hu, hukey, huout⟩ := hw.mem
    rw [hzip, List.perm_middle.mem_iff, List.mem_cons] at hu
    rcases hu with heq | hu
    · obtain ⟨rfl, -⟩ := Prod.mk.inj heq
      exact absurd hsup huout
    · exact List.mem_map.2 ⟨(u, w), hu, hukey⟩
  · exact List.mem_map.2 ⟨p, List.mem_append_right _ hp, hpkey⟩

/-- What is listed without a lost entry. -/
theorem entries_merge_of_lost (hs : start.Initial) {vocabulary : Vocabulary} {env : Environment}
    (hzip : (vocabulary.merge start env).trace.zip (vocabulary.recognized env) =
      earlier ++ (t, f) :: later) (h : Lost t later) :
    (vocabulary.merge start env).listing.entries = told start.entries (earlier ++ later) := by
  rw [entries_merge_told hs, hzip, told_of_lost h (key_mem_of_lost hs hzip h)]

/-- With another value for one variable, the trace is the same. -/
theorem zip_merge_set (hs : start.Initial) {vocabulary : Vocabulary} {env : Environment}
    (hzip : (vocabulary.merge start env).trace.zip (vocabulary.recognized env) =
      earlier ++ (t, f) :: later) (value : Text) :
    (vocabulary.merge start (env.set f.place (f.name, value))).trace.zip
        (vocabulary.recognized (env.set f.place (f.name, value))) =
      earlier ++ (t, { f with value }) :: later := by
  have hlen : (vocabulary.merge start env).trace.length = (vocabulary.recognized env).length :=
    length_trace_merge start vocabulary env
  have htrace : (vocabulary.merge start env).trace =
      earlier.map Prod.fst ++ t :: later.map Prod.fst := by
    have h := congrArg (List.map Prod.fst) hzip
    rwa [List.map_fst_zip (Nat.le_of_eq hlen), List.map_append, List.map_cons] at h
  have hfound : vocabulary.recognized env = earlier.map Prod.snd ++ f :: later.map Prod.snd := by
    have h := congrArg (List.map Prod.snd) hzip
    rwa [List.map_snd_zip (Nat.le_of_eq hlen.symm), List.map_append, List.map_cons] at h
  have hset := Vocabulary.recognized_set hfound value
  have hsame : (vocabulary.merge start (env.set f.place (f.name, value))).trace =
      (vocabulary.merge start env).trace := by
    refine trace_merge_congr hs ?_
    rw [hset, hfound]
    simp
  rw [hsame, hset, htrace, List.zip_append (by simp), List.zip_cons_cons]
  simp [List.zip_map']

/-- **The trace explains the listing.** It has an entry for each recognized variable, with its name
and key. Next to the variables it tells of the listing: the defaults, if they are wanted, for whose
keys there is no entry, and then the values of those entries that are the last for their key that is
not superseded, in the order of the entries. For each key with an entry there is such a last one,
and its variable's value is listed under that variable's schema. A lost entry contributes nothing:
without it the same is told, and with any other value for its variable the same is listed. -/
theorem Options.trace_explains_listing (options : Options) (hd : options.defaults.Built)
    (env : Environment) :
    let found := options.vocabulary.recognized env
    let m := options.merge env
    m.trace.map (fun t => (t.name, t.key)) = found.map (fun f => (f.name, f.key)) ∧
      m.listing.entries = told options.seeded (m.trace.zip found) ∧
      (∀ t ∈ m.trace, ∃ f, LastAccepted t.key (m.trace.zip found) f ∧
        options.vocabulary.get? f.name = some f.schema ∧
        m.listing.get? t.key = some ⟨f.value, f.schema⟩) ∧
      ∀ earlier t f later, m.trace.zip found = earlier ++ (t, f) :: later → Lost t later →
        m.listing.entries = told options.seeded (earlier ++ later) ∧
        ∀ value, (options.merge (env.set f.place (f.name, value))).listing = m.listing ∧
          (options.fragment (env.set f.place (f.name, value))).value =
            (options.fragment env).value := by
  intro found m
  have hs := Options.start_initial hd
  rw [← options.entries_start]
  refine ⟨names_trace_merge _ _ _, entries_merge_told hs _ _, fun t ht => ?_,
    fun earlier t f later hzip hlost => ?_⟩
  · have hkey : t.key ∈ found.map Found.key :=
      keys_trace_merge options.start options.vocabulary env ▸ List.mem_map_of_mem ht
    obtain ⟨f, hf, hget⟩ := exists_lastAccepted hs options.vocabulary env hkey
    obtain ⟨u, hu, -⟩ := hf.mem
    have hmem : f ∈ found := (List.of_mem_zip hu).2
    exact ⟨f, hf, (Vocabulary.mem_recognizedFrom hmem).2.2, hget⟩
  · have hentries := entries_merge_of_lost hs hzip hlost
    refine ⟨hentries, fun value => ?_⟩
    have hset := entries_merge_of_lost hs (zip_merge_set hs hzip value) hlost
    have hlisting : (options.merge (env.set f.place (f.name, value))).listing = m.listing :=
      congrArg Listing.mk (hset.trans hentries.symm)
    exact ⟨hlisting, congrArg Listing.fragment hlisting⟩

/-- The built-in tables with their defaults: those that no entry touches, and what the last accepted
entries leave of an environment. -/
theorem Options.trace_explains_listing_standard :
    let options : Options := { Options.standard with seed := true }
    let env : Environment := [("API_URL", "/a"), ("FILTER", "f"), ("LAYOUT", "L"), ("URL", "/b"),
      ("API_URL", "/c")]
    options.defaults.Built ∧
      ((options.merge env).listing.entries.map fun p => (p.1, p.2.value)) =
      ([("dom_id", "#swagger-ui"), ("deepLinking", "true"), ("presets", Defaults.presets),
        ("plugins", Defaults.plugins), ("requestInterceptor", Defaults.requestInterceptor),
        ("filter", "f"), ("layout", "L"), ("url", "/b")] : List (Text × Text)) := by
  intro options env
  have hd : options.defaults.Built := .ofList _
  refine ⟨hd, ?_⟩
  rw [(Options.trace_explains_listing options hd env).2.1]
  decide +kernel

end UiBootstrap

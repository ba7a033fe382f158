import UiBootstrap.Proofs.Fragment
import UiBootstrap.Proofs.Merge.ClosedForm
import UiBootstrap.Proofs.Merge.Explanation

/-!
# Reading the environment in another order

Where a vocabulary is unambiguous, at most two variables of an environment compete for a key, one of
them a legacy alias: it wins exactly if the other one is missing (`winner?_rivals_iff`). That does
not depend on the order in which the two are read, so the environment in another order has the same
winners (`winner?_perm`), and its listing has the same entries (`Keyed.perm_of_get?`).
-/

namespace UiBootstrap

/-- No schema is marked as a default, and each key is set by at most one legacy alias and at most
one other variable. -/
structure Vocabulary.Unambiguous (vocabulary : Vocabulary) : Prop where
  isDefault : ∀ name schema, vocabulary.get? name = some schema → schema.isDefault = false
  name_unique : ∀ name name' schema schema', vocabulary.get? name = some schema →
    vocabulary.get? name' = some schema' → schema.key = schema'.key →
    schema.legacy = schema'.legacy → name = name'

/-- No recognized variable is marked as a default, and for each key at most a pair of them competes:
one legacy alias and one other variable. -/
structure Paired (found : List Found) : Prop where
  isDefault : ∀ f ∈ found, f.schema.isDefault = false
  unique : ∀ f ∈ found, ∀ g ∈ found, f.key = g.key → f.schema.legacy = g.schema.legacy → f = g

variable {found found' : List Found} {w : Found} {key : Text} {start : Listing}
  {vocabulary : Vocabulary} {env env' : Environment}

namespace Vocabulary

/-- A vocabulary is unambiguous if its entries are. -/
theorem Unambiguous.of_entries
    (h : ∀ p ∈ vocabulary.entries, p.2.isDefault = false ∧ ∀ q ∈ vocabulary.entries,
      p.2.key = q.2.key → p.2.legacy = q.2.legacy → p.1 = q.1) : vocabulary.Unambiguous where
  isDefault name schema hget := (h (name, schema) (Keyed.mem_of_get? hget)).1
  name_unique name name' schema schema' hget hget' :=
    (h (name, schema) (Keyed.mem_of_get? hget)).2 (name', schema') (Keyed.mem_of_get? hget')

/-- The built-in variables for the user interface are unambiguous. -/
theorem standard_unambiguous : standard.Unambiguous := .of_entries (by decide +kernel)

/-- The built-in variables for authorization are unambiguous. -/
theorem oauth_unambiguous : oauth.Unambiguous := .of_entries (by decide +kernel)

/-- In an environment with distinct names, so are the recognized variables. -/
theorem Unambiguous.paired (h : vocabulary.Unambiguous) (hnd : (Keyed.keys env).Nodup) :
    Paired (vocabulary.recognized env) where
  isDefault f hf := isDefault_of_mem_recognized h.isDefault hf
  unique f hf g hg hkey hlegacy := by
    have hname : f.name = g.name := h.name_unique _ _ _ _ (mem_recognizedFrom hf).2.2
      (mem_recognizedFrom hg).2.2 hkey hlegacy
    have hnames : ((vocabulary.recognized env).map Found.name).Nodup := by
      rw [recognized, map_name_recognizedFrom]
      exact hnd.filter _
    exact List.inj_on_of_nodup_map hnames hf hg hname

/-- In another order the same variables are recognized. -/
theorem recognized_perm (vocabulary : Vocabulary) (h : env.Perm env') :
    ((vocabulary.recognized env).map Found.content).Perm
      ((vocabulary.recognized env').map Found.content) := by
  rw [recognized, recognized, map_content_recognizedFrom, map_content_recognizedFrom]
  exact h.filterMap _

end Vocabulary

/-! ## The winners -/

/-- A legacy alias wins only where nothing but aliases sets its key. -/
theorem legacy_of_winner?_rivals (h : Paired found) (hw : winner? (rivals key found) = some w)
    (hlegacy : w.schema.legacy = true) : ∀ g ∈ found, g.key = key → g.schema.legacy = true := by
  intro g hg hkey
  by_contra hother
  have hmem : g ∈ (rivals key found).filter fun f => !f.schema.legacy := by
    simpa [rivals, hg, hkey] using hother
  have hform : winner? (rivals key found) =
      ((rivals key found).filter fun f => !f.schema.legacy).getLast?.or
        (rivals key found).head? :=
    winner?_of_not_isDefault fun f hf => h.isDefault f (List.mem_filter.1 hf).1
  have hlast := List.getLast?_eq_some_getLast (List.ne_nil_of_mem hmem)
  rw [hform, hlast, Option.some_or] at hw
  have hnot := (List.mem_filter.1 (Option.some.inj hw ▸ List.getLast_mem _)).2
  simp [hlegacy] at hnot

/-- **A variable wins** exactly if it is no legacy alias, or no variable for its key is anything
else. -/
theorem winner?_rivals_iff (h : Paired found) : winner? (rivals key found) = some w ↔
    w ∈ found ∧ w.key = key ∧
      (w.schema.legacy = true → ∀ g ∈ found, g.key = key → g.schema.legacy = true) := by
  constructor
  · intro hw
    obtain ⟨hmem, hkey⟩ := mem_of_winner?_rivals hw
    exact ⟨hmem, hkey, legacy_of_winner?_rivals h hw⟩
  · rintro ⟨hmem, hkey, hlegacy⟩
    cases hw : winner? (rivals key found) with
    | none =>
      have hnot := rivals_eq_nil_iff.1 (winner?_eq_none_iff.1 hw)
      exact absurd (List.mem_map.2 ⟨w, hmem, hkey⟩) hnot
    | some v =>
      obtain ⟨hv, hvkey⟩ := mem_of_winner?_rivals hw
      -- There is a winner, and among the pair it is told from the other by being an alias or not.
      have hsame : v.schema.legacy = w.schema.legacy := by
        refine Bool.eq_iff_iff.2 ⟨fun hvl => ?_, fun hwl => ?_⟩
        · exact legacy_of_winner?_rivals h hw hvl w hmem hkey
        · exact hlegacy hwl v hv hvkey
      rw [h.unique v hv w hmem (hvkey.trans hkey.symm) hsame]

/-- A winner among the variables wins among the same variables in another order. -/
theorem exists_winner?_of_perm (h : Paired found) (h' : Paired found')
    (hperm : (found.map Found.content).Perm (found'.map Found.content))
    (hw : winner? (rivals key found) = some w) :
    ∃ w', winner? (rivals key found') = some w' ∧ w'.content = w.content := by
  obtain ⟨hmem, hkey, hlegacy⟩ := (winner?_rivals_iff h).1 hw
  obtain ⟨w', hmem', hcontent⟩ :=
    List.mem_map.1 (hperm.mem_iff.1 (List.mem_map_of_mem (f := Found.content) hmem))
  have hschema : w'.schema = w.schema := congrArg (·.2.schema) hcontent
  refine ⟨w', (winner?_rivals_iff h').2 ⟨hmem', ?_, fun hlegacy' g' hg' hkey' => ?_⟩, hcontent⟩
  · exact (congrArg VarSchema.key hschema).trans hkey
  · obtain ⟨g, hg, hgc⟩ :=
      List.mem_map.1 (hperm.mem_iff.2 (List.mem_map_of_mem (f := Found.content) hg'))
    have hgschema : g.schema = g'.schema := congrArg (·.2.schema) hgc
    rw [← hgschema]
    exact hlegacy (hschema ▸ hlegacy') g hg ((congrArg VarSchema.key hgschema).trans hkey')

/-- **The winners do not depend on the order.** -/
theorem winner?_perm (h : Paired found) (h' : Paired found')
    (hperm : (found.map Found.content).Perm (found'.map Found.content)) (key : Text) :
    (winner? (rivals key found)).map Found.content =
      (winner? (rivals key found')).map Found.content := by
  refine Option.ext fun c => ?_
  rw [Option.map_eq_some_iff, Option.map_eq_some_iff]
  constructor
  · rintro ⟨w, hw, rfl⟩
    exact exists_winner?_of_perm h h' hperm hw
  · rintro ⟨w, hw, rfl⟩
    exact exists_winner?_of_perm h' h hperm.symm hw

/-- What stands under a key does not depend on the order. -/
theorem standing_perm (h : Paired found) (h' : Paired found')
    (hperm : (found.map Found.content).Perm (found'.map Found.content)) (key : Text) :
    standing start found key = standing start found' key := by
  have hbinding := congrArg (Option.map Prod.snd) (winner?_perm h h' hperm key)
  rw [Option.map_map, Option.map_map] at hbinding
  exact congrArg (Option.or · (start.get? key)) hbinding

/-! ## The two readings -/

/-- In another order the same keys are set. -/
theorem keys_recognized_perm (h : env.Perm env') :
    ((vocabulary.recognized env).map Found.key).Perm
      ((vocabulary.recognized env').map Found.key) := by
  have hkeys := (vocabulary.recognized_perm h).map (·.2.schema.key)
  rwa [List.map_map, List.map_map] at hkeys

/-- In another order the trace names the same variables, with the same keys. -/
theorem names_trace_merge_perm (h : env.Perm env') :
    ((vocabulary.merge start env).trace.map fun t => (t.name, t.key)).Perm
      ((vocabulary.merge start env').trace.map fun t => (t.name, t.key)) := by
  have hnames := (vocabulary.recognized_perm h).map fun c => (c.1, c.2.schema.key)
  rw [List.map_map, List.map_map] at hnames
  rw [names_trace_merge, names_trace_merge]
  exact hnames

/-- In another order as many variables are ignored. -/
theorem ignored_merge_perm (h : env.Perm env') :
    (vocabulary.merge start env).ignored = (vocabulary.merge start env').ignored := by
  have hlen := (vocabulary.recognized_perm h).length_eq
  rw [List.length_map, List.length_map] at hlen
  have hsum := ignored_merge start vocabulary env
  rw [h.length_eq, ← ignored_merge start vocabulary env', hlen] at hsum
  exact Nat.add_right_cancel hsum

/-- **The same value stands under each key.** -/
theorem get?_merge_perm (hs : start.Initial) (hv : vocabulary.Unambiguous)
    (hnd : (Keyed.keys env).Nodup) (h : env.Perm env') (key : Text) :
    (vocabulary.merge start env).listing.get? key =
      (vocabulary.merge start env').listing.get? key := by
  have hnd' : (Keyed.keys env').Nodup := (h.map Prod.fst).nodup_iff.1 hnd
  rw [(Stands.merge hs vocabulary env).get?, (Stands.merge hs vocabulary env').get?]
  exact standing_perm (hv.paired hnd) (hv.paired hnd') (vocabulary.recognized_perm h) key

/-- What is listed below the defaults differs in its order only. -/
theorem winners_perm (hs : start.Initial) (hv : vocabulary.Unambiguous)
    (hnd : (Keyed.keys env).Nodup) (h : env.Perm env') :
    ((winners (vocabulary.recognized env)).map Found.entry).Perm
      ((winners (vocabulary.recognized env')).map Found.entry) := by
  have hall := Keyed.perm_of_get? (Stands.merge hs vocabulary env).nodup
    (Stands.merge hs vocabulary env').nodup (get?_merge_perm hs hv hnd h)
  have hkept : start.entries.without ((vocabulary.recognized env).map Found.key) =
      start.entries.without ((vocabulary.recognized env').map Found.key) :=
    Keyed.without_congr fun _ => (keys_recognized_perm h).mem_iff
  rw [entries_merge hs, entries_merge hs, hkept] at hall
  exact (List.perm_append_left_iff _).1 hall

/-- The last entries for a key that are not superseded stand for the same variable. -/
theorem exists_lastAccepted_perm (hs : start.Initial) (hv : vocabulary.Unambiguous)
    (hnd : (Keyed.keys env).Nodup) (h : env.Perm env')
    (hkey : key ∈ (vocabulary.recognized env).map Found.key) :
    ∃ f f', LastAccepted key
        ((vocabulary.merge start env).trace.zip (vocabulary.recognized env)) f ∧
      LastAccepted key
        ((vocabulary.merge start env').trace.zip (vocabulary.recognized env')) f' ∧
      f.content = f'.content ∧
      (vocabulary.merge start env).listing.get? key = some f.binding := by
  obtain ⟨f, hf, hget⟩ := exists_lastAccepted hs vocabulary env hkey
  obtain ⟨f', hf', hget'⟩ :=
    exists_lastAccepted hs vocabulary env' ((keys_recognized_perm h).mem_iff.1 hkey)
  have hbinding : f.binding = f'.binding :=
    Option.some.inj (hget.symm.trans ((get?_merge_perm hs hv hnd h key).trans hget'))
  have hschema : f.schema = f'.schema := congrArg (·.schema) hbinding
  -- The places differ, so the names are compared through the schema: it belongs to one name only.
  obtain ⟨t, ht, -⟩ := hf.mem
  obtain ⟨t', ht', -⟩ := hf'.mem
  have hname : f.name = f'.name := hv.name_unique _ _ _ _
    (Vocabulary.mem_recognizedFrom (List.of_mem_zip ht).2).2.2
    (Vocabulary.mem_recognizedFrom (List.of_mem_zip ht').2).2.2
    (congrArg VarSchema.key hschema) (congrArg VarSchema.legacy hschema)
  exact ⟨f, f', hf, hf', Prod.ext hname hbinding, hget⟩

/-- **Order does not matter** where the vocabulary is unambiguous, as the built-in ones are, and the
names of the environment are distinct. In another order the same defaults stay, in the same order
and above the other entries, and those are the same but for their order; the fragments are the lines
of the two, one under the other. The same value stands under each key, and for each key that a
recognized variable sets, the last entry that is not superseded stands for the same variable in both
traces. As many variables are ignored and the same ones are recognized. -/
theorem Options.order_independence :
    (Vocabulary.standard.Unambiguous ∧ Vocabulary.oauth.Unambiguous) ∧
    ∀ (options : Options) (env env' : Environment), options.defaults.Built →
      options.vocabulary.Unambiguous → (Keyed.keys env).Nodup → env.Perm env' →
      let found := options.vocabulary.recognized env
      let found' := options.vocabulary.recognized env'
      let m := options.merge env
      let m' := options.merge env'
      let kept : Listing := ⟨options.seeded.without (found.map Found.key)⟩
      (∃ added added' : Listing, added.entries.Perm added'.entries ∧
        m.listing.entries = kept.entries ++ added.entries ∧
        m'.listing.entries = kept.entries ++ added'.entries ∧
        (options.fragment env).value = Text.unlines (kept.lines ++ added.lines) ∧
        (options.fragment env').value = Text.unlines (kept.lines ++ added'.lines)) ∧
      (∀ key, m.listing.get? key = m'.listing.get? key) ∧
      (∀ key ∈ found.map Found.key, ∃ f f', LastAccepted key (m.trace.zip found) f ∧
        LastAccepted key (m'.trace.zip found') f' ∧ f.content = f'.content ∧
        m.listing.get? key = some f.binding) ∧
      m.ignored = m'.ignored ∧
      (m.trace.map fun t => (t.name, t.key)).Perm (m'.trace.map fun t => (t.name, t.key)) := by
  refine ⟨⟨Vocabulary.standard_unambiguous, Vocabulary.oauth_unambiguous⟩, ?_⟩
  intro options env env' hd hv hnd hperm found found' m m' kept
  have hs := Options.start_initial hd
  have hentries : m.listing.entries = kept.entries ++ (winners found).map Found.entry := by
    have hkept : kept.entries = options.start.entries.without (found.map Found.key) := by
      rw [options.entries_start]
    rw [hkept]
    exact entries_merge hs options.vocabulary env
  have hentries' : m'.listing.entries = kept.entries ++ (winners found').map Found.entry := by
    have hkept : kept.entries = options.start.entries.without (found'.map Found.key) := by
      rw [options.entries_start]
      exact Keyed.without_congr fun _ => (keys_recognized_perm hperm).mem_iff
    rw [hkept]
    exact entries_merge hs options.vocabulary env'
  refine ⟨⟨⟨(winners found).map Found.entry⟩, ⟨(winners found').map Found.entry⟩,
    winners_perm hs hv hnd hperm, hentries, hentries', ?_, ?_⟩, get?_merge_perm hs hv hnd hperm,
    fun key hkey => exists_lastAccepted_perm hs hv hnd hperm hkey, ignored_merge_perm hperm,
    names_trace_merge_perm hperm⟩
  · rw [← Listing.lines_append hentries]
    exact Listing.fragment_eq_unlines m.listing
  · rw [← Listing.lines_append hentries']
    exact Listing.fragment_eq_unlines m'.listing

/-- The built-in tables with their defaults: an alias that comes last and one that comes first lead
to the same value under its key, and under another key stands the same default. -/
theorem Options.order_independence_standard :
    let options : Options := { Options.standard with seed := true }
    let env : Environment := [("FILTER", "f"), ("URL", "/b"), ("API_URL", "/a")]
    let env' : Environment := [("API_URL", "/a"), ("FILTER", "f"), ("URL", "/b")]
    options.defaults.Built ∧ options.vocabulary.Unambiguous ∧ (Keyed.keys env).Nodup ∧
      env.Perm env' ∧ (options.merge env).listing.get? "url" =
        (options.merge env').listing.get? "url" ∧
      (options.merge env').listing.get? "url" = some ⟨"/b", .ofType "url" .string⟩ ∧
      (options.merge env).listing.get? "dom_id" = (options.merge env').listing.get? "dom_id" ∧
      (options.merge env').listing.get? "dom_id" =
        some ⟨"#swagger-ui", { key := "dom_id", isDefault := true }⟩ := by
  intro options env env'
  obtain ⟨⟨hv, -⟩, horder⟩ := Options.order_independence
  have hd : options.defaults.Built := .ofList _
  have hnd : (Keyed.keys env).Nodup := by decide +kernel
  have hperm : env.Perm env' := by decide +kernel
  obtain ⟨-, hget, -⟩ := horder options env env' hd hv hnd hperm
  exact ⟨hd, hv, hnd, hperm, hget "url", (hget "url").symm.trans (by decide +kernel),
    hget "dom_id", (hget "dom_id").symm.trans (by decide +kernel)⟩

end UiBootstrap

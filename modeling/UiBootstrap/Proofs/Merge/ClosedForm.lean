import UiBootstrap.Proofs.Merge.Contest

/-!
# The merged listing in closed form

`Options.merge_closed_form` says what an environment comes to without reading it: the defaults that
no recognized variable touches, in their order, and behind them the winner for each key that one
sets, in the order in which the winners stand in the environment. It rests on `entries_merge`, which
says so of any start: a superseded variable changes neither part, and any other drops what stood
under its key from both and goes to the end, in the listing (`Listing.entries_insert`) and among the
winners (`winners_concat_of_not_superseded`) alike.
-/

namespace UiBootstrap

variable {found fs : List Found} {f : Found} {start : Listing}

/-- A superseded variable is no winner and makes none. -/
theorem winners_concat_of_superseded (hs : start.Initial) (hlt : ∀ g ∈ found, g.place < f.place)
    (h : (fate start found f).outcome = .superseded) :
    winners (found ++ [f]) = winners found := by
  have hself := winner?_of_superseded hs h
  have hlast : winner? (rivals f.key (found ++ [f])) ≠ some f := by
    intro hw
    have hmem : f ∈ found := (mem_of_winner?_rivals (hself ▸ hw)).1
    exact Nat.lt_irrefl _ (hlt f hmem)
  rw [winners, List.filter_append, List.filter_cons_of_neg (by simpa using hlast),
    List.filter_nil, List.append_nil]
  refine List.filter_congr fun g _ => ?_
  by_cases hk : f.key = g.key
  · rw [← hk, hself]
  · rw [rivals_concat_of_ne hk]

/-- A variable that is not superseded is the last winner, and takes the place of the winner before
it. -/
theorem winners_concat_of_not_superseded (hs : start.Initial)
    (hlt : ∀ g ∈ found, g.place < f.place)
    (h : (fate start found f).outcome ≠ .superseded) :
    winners (found ++ [f]) = (winners found).filter (fun g => g.key ≠ f.key) ++ [f] := by
  have hself := winner?_of_not_superseded hs h
  rw [winners, List.filter_append, List.filter_cons_of_pos (by simpa using hself),
    List.filter_nil, winners, List.filter_filter]
  congr 1
  refine List.filter_congr fun g hg => ?_
  by_cases hk : f.key = g.key
  · have hne : f ≠ g := by
      rintro rfl
      exact Nat.lt_irrefl _ (hlt f hg)
    rw [← hk, hself]
    simp [hk, hne]
  · rw [rivals_concat_of_ne hk]
    simp [Ne.symm hk]

/-- What one write does to entries made of found variables. -/
theorem filter_map_entry (key : Text) :
    (fs.map Found.entry).filter (fun p => p.1 ≠ key) =
      (fs.filter fun g => g.key ≠ key).map Found.entry := by
  rw [List.filter_map]
  rfl

/-- **The listing after reading**: what no recognized variable touches, and then the winners. -/
theorem entries_merge (hs : start.Initial) (vocabulary : Vocabulary) (env : Environment) :
    (vocabulary.merge start env).listing.entries =
      start.entries.without ((vocabulary.recognized env).map Found.key) ++
        (winners (vocabulary.recognized env)).map Found.entry := by
  refine Vocabulary.merge_induction_stands hs (P := fun found m => m.listing.entries =
    start.entries.without (found.map Found.key) ++ (winners found).map Found.entry)
    ?_ (fun _ _ h => h) (fun found m f hlt hst _ ih => ?_) env
  · simp [winners]
  rw [List.map_append, List.map_singleton, Merged.listing_read hst]
  split
  · next hsup =>
    rw [Keyed.without_concat_of_mem (key_mem_of_superseded hs hsup),
      winners_concat_of_superseded hs hlt hsup, ih]
  · next hsup =>
    rw [Listing.entries_insert hst.nodup, ih, List.filter_append, ← Keyed.without_concat,
      winners_concat_of_not_superseded hs hlt hsup, List.map_append, List.append_assoc]
    congr 2
    exact filter_map_entry f.key

/-- Nothing is listed exactly if nothing was listed before and nothing is recognized. -/
theorem entries_merge_eq_nil_iff (start : Listing) (vocabulary : Vocabulary) (env : Environment) :
    (vocabulary.merge start env).listing.entries = [] ↔
      start.entries = [] ∧ vocabulary.recognized env = [] := by
  refine Vocabulary.merge_induction (P := fun found m => m.listing.entries = [] ↔
    start.entries = [] ∧ found = []) ?_ (fun _ _ h => h) (fun found m f _ _ => ?_) env
  · simp
  · have hread : (m.read f).listing.entries ≠ [] := Listing.entries_settle_ne_nil _ f.binding
    simp [hread]

/-- Where no schema is marked as a default, the last variable wins that is no legacy alias, or else
the first of all. -/
theorem winner?_of_not_isDefault (h : ∀ f ∈ fs, f.schema.isDefault = false) :
    winner? fs = (fs.filter fun f => !f.schema.legacy).getLast?.or fs.head? := by
  induction fs using List.reverseRecOn with
  | nil => rfl
  | append_singleton fs f ih =>
    have hfs : ∀ g ∈ fs, g.schema.isDefault = false := fun g hg => h g (List.mem_append_left _ hg)
    rw [winner?_concat]
    cases hl : f.schema.legacy with
    | false => simp [hl]
    | true =>
      cases hw : winner? fs with
      | none =>
        obtain rfl := winner?_eq_none_iff.1 hw
        simp [hl]
      | some w =>
        have hwd := hfs w (mem_of_winner? hw)
        have hne : fs ≠ [] := List.ne_nil_of_mem (mem_of_winner? hw)
        have hfilter : (fs ++ [f]).filter (fun f => !f.schema.legacy) =
            fs.filter fun f => !f.schema.legacy := by simp [hl]
        rw [if_pos (by simp [hwd]), hfilter, List.head?_append_of_ne_nil _ hne, ← ih hfs, hw]

/-- **The merge in closed form.** The listing consists of the defaults, if they are wanted, whose
keys no recognized variable sets, in their order, and of the winners, in the order of the
environment. So each key stands there at most once; a key that no variable sets has its default, if
there is one and it is wanted, and nothing otherwise, and a key that one sets has its winner's
value. Where
the vocabulary marks nothing as a default, that winner is the last variable that is no legacy alias,
or the first one if all of them are. -/
theorem Options.merge_closed_form (options : Options) (hd : options.defaults.Built)
    (env : Environment) :
    let found := options.vocabulary.recognized env
    let listing := (options.merge env).listing
    listing.entries = options.seeded.without (found.map Found.key) ++
        (winners found).map Found.entry ∧
      (Keyed.keys listing.entries).Nodup ∧
      (∀ key, rivals key found = [] → listing.get? key = options.seeded.get? key) ∧
      (∀ key, rivals key found ≠ [] →
        ∃ w, winner? (rivals key found) = some w ∧ listing.get? key = some w.binding) ∧
      ((∀ name schema, options.vocabulary.get? name = some schema → schema.isDefault = false) →
        ∀ key, winner? (rivals key found) =
          ((rivals key found).filter fun f => !f.schema.legacy).getLast?.or
            (rivals key found).head?) := by
  intro found listing
  have hs := Options.start_initial hd
  have hst : Stands options.start found listing := .merge hs options.vocabulary env
  rw [← options.entries_start]
  refine ⟨entries_merge hs _ _, hst.nodup, fun key hk => ?_, fun key hk => ?_, fun hv key => ?_⟩
  · rw [hst.get?, standing, hk]
    rfl
  · cases hw : winner? (rivals key found) with
    | none => exact absurd (winner?_eq_none_iff.1 hw) hk
    | some w => exact ⟨w, rfl, by rw [hst.get?, standing, hw]; rfl⟩
  · refine winner?_of_not_isDefault fun f hf => ?_
    have hf : f ∈ found := (List.mem_filter.1 hf).1
    exact hv f.name f.schema (Vocabulary.mem_recognizedFrom hf).2.2

/-- The built-in tables: a legacy alias gives way to the variable behind it, which goes to the end.
-/
theorem Options.merge_closed_form_standard :
    Options.standard.defaults.Built ∧
      (({ Options.standard with seed := true } : Options).merge [("API_URL", "/a"),
        ("LAYOUT", "L"), ("URL", "/b"), ("API_URL", "/c")]).listing.entries.map
        (fun p => (p.1, p.2.value)) =
      ([("dom_id", "#swagger-ui"), ("deepLinking", "true"), ("presets", Defaults.presets),
        ("plugins", Defaults.plugins), ("requestInterceptor", Defaults.requestInterceptor),
        ("layout", "L"), ("url", "/b")] : List (Text × Text)) := by
  have hd : Options.standard.defaults.Built := .ofList _
  refine ⟨hd, ?_⟩
  rw [(Options.merge_closed_form { Options.standard with seed := true } hd _).1]
  decide +kernel

end UiBootstrap

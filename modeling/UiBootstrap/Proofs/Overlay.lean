import UiBootstrap.Overrides.Reading
import UiBootstrap.Proofs.KeyedUpdates
import UiBootstrap.Proofs.Listing

/-!
# Overrides laid over each other

Laying an overrides file over the options is a run of updates of the recognized variables
(`Overrides.entries_vocabulary_apply`) and one of the defaults (`Overrides.entries_defaults_apply`),
and laying several files over them, one after the other, is two longer runs of updates. So for each
variable the last file counts that defines it, and for each default the last entry of all the files,
while the order is that of the first appearance (`Overrides.overlay_law`). In particular one file
can stand for several (`Overrides.union`).
-/

namespace UiBootstrap

namespace Overrides

variable {files : List Overrides} {file : Overrides} {options : Options} {name : Text}

/-- The schemas of the variables that a file defines. -/
def schemas (file : Overrides) : Keyed VarSchema :=
  file.definitions.map fun p => (p.1, p.2.schema)

/-- The options with files laid over them, one after the other. -/
def applyAll (files : List Overrides) (options : Options) : Options :=
  files.foldl (fun options file => file.apply options) options

/-- The definition of a variable in the last of the files that define it. -/
def definition? (files : List Overrides) (name : Text) : Option VariableDefinition :=
  files.reverse.findSome? fun file => file.definitions.get? name

/-- One file for several: with the last definition of each variable, in the order of their names,
and with all the defaults. -/
def union (files : List Overrides) : Overrides where
  definitions := (Keyed.latest (files.flatMap (·.definitions))).mergeSort nameLe
  defaults := files.flatMap (·.defaults)

/-! ## One file -/

/-- Laid over the options, a file updates the recognized variables. -/
theorem entries_vocabulary_apply (file : Overrides) (options : Options) :
    (file.apply options).vocabulary.entries =
      options.vocabulary.entries.putAll file.schemas := by
  have hfold : ∀ (ds : Keyed VariableDefinition) (vocabulary : Vocabulary),
      (ds.foldl (fun vocabulary p => vocabulary.insert p.1 p.2.schema) vocabulary).entries =
        vocabulary.entries.putAll (ds.map fun p => (p.1, p.2.schema)) := by
    intro ds
    induction ds with
    | nil => intro vocabulary; rfl
    | cons p ds ih => intro vocabulary; exact ih (vocabulary.insert p.1 p.2.schema)
  exact hfold file.definitions options.vocabulary

/-- Laid over the options, a file updates the defaults. -/
theorem entries_defaults_apply (file : Overrides) (options : Options) :
    (file.apply options).defaults.entries = options.defaults.entries.putAll file.defaults := by
  have hfold : ∀ (settings : Keyed Setting) (defaults : Defaults),
      (settings.foldl (fun defaults p => defaults.insert p.1 p.2) defaults).entries =
        defaults.entries.putAll settings := by
    intro settings
    induction settings with
    | nil => intro defaults; rfl
    | cons p settings ih => intro defaults; exact ih (defaults.insert p.1 p.2)
  exact hfold file.defaults options.defaults

/-! ## Several files -/

/-- Laid over the options, files update the recognized variables one after the other. -/
theorem entries_vocabulary_applyAll (files : List Overrides) (options : Options) :
    (applyAll files options).vocabulary.entries =
      options.vocabulary.entries.putAll (files.flatMap schemas) := by
  induction files generalizing options with
  | nil => rfl
  | cons file files ih =>
    rw [applyAll, List.foldl_cons, ← applyAll, ih, entries_vocabulary_apply, List.flatMap_cons,
      Keyed.putAll_append]

/-- Laid over the options, files update the defaults one after the other. -/
theorem entries_defaults_applyAll (files : List Overrides) (options : Options) :
    (applyAll files options).defaults.entries =
      options.defaults.entries.putAll (files.flatMap (·.defaults)) := by
  induction files generalizing options with
  | nil => rfl
  | cons file files ih =>
    rw [applyAll, List.foldl_cons, ← applyAll, ih, entries_defaults_apply, List.flatMap_cons,
      Keyed.putAll_append]

/-- Files leave it as it was whether the defaults are wanted. -/
theorem seed_applyAll (files : List Overrides) (options : Options) :
    (applyAll files options).seed = options.seed := by
  induction files generalizing options with
  | nil => rfl
  | cons file files ih => exact ih (file.apply options)

/-- Among all the definitions of all the files, the last one of a variable is the one in the last
file that defines it. -/
theorem get?_reverse_flatMap_definitions
    (h : ∀ file ∈ files, (Keyed.keys file.definitions).Nodup) (name : Text) :
    Keyed.get? name (files.flatMap (·.definitions)).reverse = definition? files name := by
  induction files with
  | nil => rfl
  | cons file files ih =>
    have hfile : Keyed.get? name file.definitions.reverse = Keyed.get? name file.definitions :=
      (Keyed.get?_perm (h file List.mem_cons_self) (List.reverse_perm _).symm name).symm
    rw [List.flatMap_cons, List.reverse_append, Keyed.get?_append,
      ih fun f hf => h f (List.mem_cons_of_mem _ hf), hfile, definition?, definition?,
      List.reverse_cons, List.findSome?_append, List.findSome?_singleton]

/-- The schema of a variable is that of its last definition, or the one that it had. -/
theorem get?_vocabulary_applyAll (h : ∀ file ∈ files, (Keyed.keys file.definitions).Nodup)
    (options : Options) (name : Text) : (applyAll files options).vocabulary.get? name =
      ((definition? files name).map (·.schema)).or (options.vocabulary.get? name) := by
  have hschemas : (files.flatMap schemas).reverse =
      (files.flatMap (·.definitions)).reverse.map fun p => (p.1, p.2.schema) := by
    rw [List.map_reverse, List.map_flatMap]
    rfl
  rw [Vocabulary.get?, entries_vocabulary_applyAll, Keyed.get?_putAll, hschemas, Keyed.get?_map,
    get?_reverse_flatMap_definitions h]
  rfl

/-! ## One file for several -/

/-- Sorted definitions are in the order of their names. -/
theorem pairwise_mergeSort (definitions : Keyed VariableDefinition) :
    (definitions.mergeSort nameLe).Pairwise fun v w => nameLe v w = true := by
  refine List.pairwise_mergeSort ?_ ?_ _
  · intro u v w huv hvw
    exact Text.le_trans huv hvw
  · intro v w
    exact (Bool.or_eq_true _ _).mpr (Text.le_total v.1 w.1)

/-- The definitions of such a file are in the order of their names. -/
theorem pairwise_definitions_union (files : List Overrides) :
    (union files).definitions.Pairwise fun v w => nameLe v w = true :=
  pairwise_mergeSort _

/-- Such a file defines each variable once. -/
theorem nodup_keys_definitions_union (files : List Overrides) :
    (Keyed.keys (union files).definitions).Nodup := by
  have hperm : ((union files).definitions.map Prod.fst).Perm
      ((Keyed.latest (files.flatMap (·.definitions))).map Prod.fst) :=
    (List.mergeSort_perm _ nameLe).map Prod.fst
  have hlatest : (Keyed.latest (files.flatMap (·.definitions))).map Prod.fst =
      (Keyed.keys (files.flatMap (·.definitions))).dedup := Keyed.keys_latest
  rw [hlatest] at hperm
  exact hperm.nodup_iff.2 (List.nodup_dedup _)

/-- Such a file defines a variable as the last of the files does that define it. -/
theorem get?_definitions_union (h : ∀ file ∈ files, (Keyed.keys file.definitions).Nodup)
    (name : Text) : (union files).definitions.get? name = definition? files name := by
  rw [Keyed.get?_perm (nodup_keys_definitions_union files) (List.mergeSort_perm _ nameLe),
    Keyed.get?_latest, get?_reverse_flatMap_definitions h]

/-- With such a file the same variables are recognized, with the same schemas. -/
theorem get?_vocabulary_apply_union (h : ∀ file ∈ files, (Keyed.keys file.definitions).Nodup)
    (options : Options) (name : Text) : ((union files).apply options).vocabulary.get? name =
      (applyAll files options).vocabulary.get? name := by
  have hunion : ∀ file ∈ [union files], (Keyed.keys file.definitions).Nodup := by
    intro file hfile
    rw [List.mem_singleton.1 hfile]
    exact nodup_keys_definitions_union files
  have hone : definition? [union files] name = definition? files name := by
    rw [← get?_definitions_union h, definition?, List.reverse_singleton, List.findSome?_singleton]
  have happly : (union files).apply options = applyAll [union files] options := rfl
  rw [happly, get?_vocabulary_applyAll hunion, get?_vocabulary_applyAll h, hone]

/-- With such a file the defaults are the same. -/
theorem defaults_apply_union (files : List Overrides) (options : Options) :
    ((union files).apply options).defaults = (applyAll files options).defaults := by
  have hentries : ((union files).apply options).defaults.entries =
      (applyAll files options).defaults.entries := by
    rw [entries_defaults_apply, entries_defaults_applyAll]
    rfl
  exact congrArg Defaults.mk hentries

/-- Laid over the options a second time, a file changes nothing. -/
theorem apply_apply (file : Overrides) (hv : (Keyed.keys options.vocabulary.entries).Nodup)
    (hd : options.defaults.Built) : file.apply (file.apply options) = file.apply options := by
  have hvocabulary : (file.apply (file.apply options)).vocabulary.entries =
      (file.apply options).vocabulary.entries := by
    rw [entries_vocabulary_apply, entries_vocabulary_apply, Keyed.putAll_putAll_self hv]
  have hdefaults : (file.apply (file.apply options)).defaults.entries =
      (file.apply options).defaults.entries := by
    rw [entries_defaults_apply, entries_defaults_apply, Keyed.putAll_putAll_self hd.nodup]
  exact congrArg₂ (Options.mk options.seed) (congrArg Vocabulary.mk hvocabulary)
    (congrArg Defaults.mk hdefaults)

/-- Of several defaults for a key in one file, the last counts. -/
theorem get?_defaults_apply_of_last {key : Text} {s : Setting} {earlier later : Keyed Setting}
    (h : file.defaults = earlier ++ (key, s) :: later) (hlater : key ∉ Keyed.keys later) :
    (file.apply options).defaults.get? key = some s := by
  have hnone : Keyed.get? key later.reverse = none := by
    rw [Keyed.get?_eq_none_iff, Keyed.keys, List.map_reverse, List.mem_reverse]
    exact hlater
  have hone : Keyed.get? key [(key, s)] = some s := if_pos rfl
  rw [Defaults.get?, entries_defaults_apply, Keyed.get?_putAll, h, List.reverse_append,
    List.reverse_cons, Keyed.get?_append, Keyed.get?_append, hnone, hone]
  rfl

/-! ## The law -/

/-- What the options are with files laid over them. -/
structure Overlaid (files : List Overrides) (options result : Options) : Prop where
  /-- A variable has the schema of its definition in the last file that defines it: the key, the
  type and the legacy mark as they are written there, not marked as a default, and a warning exactly
  if the definition has one, with its text. -/
  defined : ∀ name d, definition? files name = some d → result.vocabulary.get? name = some
    { key := d.key, type := d.type, legacy := d.legacy, isDefault := false,
      onFound := d.deprecated.map .warn }
  /-- A variable that no file defines is what it was. -/
  undefined : ∀ name, definition? files name = none →
    result.vocabulary.get? name = options.vocabulary.get? name
  /-- The keys of the defaults stand in their order, and behind them the new ones in the order in
  which the files first name them. -/
  keys : Keyed.keys result.defaults.entries = Keyed.keys options.defaults.entries ++
    ((Keyed.keys (files.flatMap (·.defaults))).filter
      fun key => key ∉ Keyed.keys options.defaults.entries).eraseDups
  /-- Each key stands there once. -/
  nodup : (Keyed.keys result.defaults.entries).Nodup
  /-- Under a key stand the value and the type of its last default in all the files, or the former
  ones if there is none. -/
  found : ∀ key, result.defaults.get? key =
    (Keyed.get? key (files.flatMap (·.defaults)).reverse).or (options.defaults.get? key)
  /-- Every default is listed under its key, marked as a default. -/
  marked : ∀ p ∈ (Listing.ofDefaults result.defaults).entries,
    p.2.schema.key = p.1 ∧ p.2.schema.isDefault = true
  /-- It is left as it was whether the defaults are wanted. -/
  seed : result.seed = options.seed

/-- **The law of overlays.** Files laid over the options, one after the other, lead to what
`Overlaid` says. So laying a file over the options twice is doing it once, and of several entries
for a key in one file the last counts. And one file (a possible one: with its definitions in order
and each variable defined once) that has the last definition of each variable and all the entries
leads to what the files lead to: the same variables with the same schemas, and the same defaults in
the same order. -/
theorem overlay_law (files : List Overrides)
    (hfiles : ∀ file ∈ files, (Keyed.keys file.definitions).Nodup) (options : Options)
    (hv : (Keyed.keys options.vocabulary.entries).Nodup) (hd : options.defaults.Built) :
    let result := applyAll files options
    let one := union files
    Overlaid files options result ∧
      (∀ file : Overrides, file.apply (file.apply options) = file.apply options) ∧
      (∀ (file : Overrides) earlier key s later, file.defaults = earlier ++ (key, s) :: later →
        key ∉ Keyed.keys later → (file.apply options).defaults.get? key = some s) ∧
      (one.definitions.Pairwise (fun v w => nameLe v w = true) ∧
        (Keyed.keys one.definitions).Nodup ∧
        (∀ name, one.definitions.get? name = definition? files name) ∧
        one.defaults = files.flatMap (·.defaults)) ∧
      (one.apply options).vocabulary.entries.Perm result.vocabulary.entries ∧
      (∀ name, (one.apply options).vocabulary.get? name = result.vocabulary.get? name) ∧
      (one.apply options).defaults = result.defaults ∧ (one.apply options).seed = result.seed := by
  intro result one
  have hget := get?_vocabulary_applyAll hfiles options
  have hsame := get?_vocabulary_apply_union hfiles options
  have hdefaults : result.defaults.entries =
      options.defaults.entries.putAll (files.flatMap (·.defaults)) :=
    entries_defaults_applyAll files options
  have hresult : Overlaid files options result :=
    { defined := fun name d h => by rw [hget, h]; rfl
      undefined := fun name h => by rw [hget, h]; rfl
      keys := by rw [hdefaults, Keyed.keys_putAll]
      nodup := by rw [hdefaults]; exact Keyed.nodup_keys_putAll hd.nodup
      found := fun key => by rw [Defaults.get?, hdefaults, Keyed.get?_putAll]; rfl
      marked := fun p hp => by
        obtain ⟨⟨key, s⟩, -, rfl⟩ := List.mem_map.1 hp
        exact ⟨rfl, rfl⟩
      seed := seed_applyAll files options }
  have hperm : (one.apply options).vocabulary.entries.Perm result.vocabulary.entries := by
    refine Keyed.perm_of_get? ?_ ?_ hsame
    · rw [entries_vocabulary_apply]
      exact Keyed.nodup_keys_putAll hv
    · rw [entries_vocabulary_applyAll]
      exact Keyed.nodup_keys_putAll hv
  exact ⟨hresult, fun file => apply_apply file hv hd,
    fun file earlier key s later h hlater => get?_defaults_apply_of_last h hlater,
    ⟨pairwise_definitions_union files, nodup_keys_definitions_union files,
      get?_definitions_union hfiles, rfl⟩,
    hperm, hsame, defaults_apply_union files options, (seed_applyAll files options).symm⟩

/-- The built-in options under two files, which both define one variable of their own and the first
of which also redefines a built-in one; each names a default twice. -/
theorem overlay_law_standard :
    let warned : VariableDefinition := ⟨"theme", .object, true, some "use THEME"⟩
    let first : Overrides := ⟨[("MODE", ⟨"mode", .string, false, none⟩),
        ("URL", ⟨"document", .string, false, none⟩)],
      [("theme", ⟨"a", .string⟩), ("layout", ⟨"L", .string⟩), ("theme", ⟨"b", .string⟩)]⟩
    let second : Overrides := ⟨[("MODE", warned)],
      [("mode", ⟨"c", .string⟩), ("theme", ⟨"d", .number⟩), ("mode", ⟨"e", .string⟩)]⟩
    let result := applyAll [first, second] Options.standard
    result.vocabulary.get? "MODE" =
        some ⟨"theme", .object, true, false, some (.warn "use THEME")⟩ ∧
      result.vocabulary.get? "LAYOUT" = some (.ofType "layout" .string) ∧
      Keyed.keys result.defaults.entries = Keyed.keys Defaults.standard.entries ++
        ([("theme" : Text), ("mode" : Text)]) ∧
      result.defaults.get? "theme" = some ⟨"d", .number⟩ ∧
      result.defaults.get? "url" = some ⟨Defaults.url, .string⟩ ∧
      ((union [first, second]).apply Options.standard).defaults = result.defaults := by
  intro warned first second result
  have hfiles : ∀ file ∈ [first, second], (Keyed.keys file.definitions).Nodup := by decide
  have hv : (Keyed.keys Options.standard.vocabulary.entries).Nodup := by decide +kernel
  obtain ⟨hresult, -, -, -, -, -, hdefaults, -⟩ :=
    overlay_law [first, second] hfiles Options.standard hv (.ofList _)
  refine ⟨hresult.defined "MODE" warned (by decide +kernel), ?_, ?_, ?_, ?_, hdefaults⟩
  · rw [hresult.undefined "LAYOUT" (by decide +kernel)]
    decide +kernel
  · rw [hresult.keys]
    decide +kernel
  · rw [hresult.found]
    decide +kernel
  · rw [hresult.found]
    decide +kernel

end Overrides

end UiBootstrap

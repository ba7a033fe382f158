import UiBootstrap.Merge
import UiBootstrap.Proofs.KeyedWrites

/-!
# Listings under writes

What one write does to a listing, and which listings an environment may be read over
(`Listing.Initial`): those with one value for each key, all of them marked as defaults. What stands
before an environment is read is said in terms of the options alone (`Options.seeded`), and it is
such a listing (`Options.start_initial`), because defaults are set key by key (`Defaults.Built`).
-/

namespace UiBootstrap

variable {key : Text} {listing : Listing} {defaults : Defaults}

namespace Listing

/-- Dropping a key hands out the value that is found there. -/
theorem remove_eq (listing : Listing) (key : Text) :
    listing.remove key = (listing.get? key, ⟨listing.entries.erase key⟩) := by
  rw [remove, Keyed.pop_eq]
  rfl

/-- Setting a key drops it first. -/
theorem insert_eq (listing : Listing) (key : Text) (v : Binding) :
    listing.insert key v = ⟨listing.entries.erase key ++ [(key, v)]⟩ := by
  rw [insert, remove_eq]

/-- Where keys are distinct, a write leaves the other entries and goes to the end. -/
theorem entries_insert {v : Binding} (hnd : (Keyed.keys listing.entries).Nodup) :
    (listing.insert key v).entries = listing.entries.filter (fun p => p.1 ≠ key) ++ [(key, v)] := by
  rw [insert_eq, Keyed.erase_eq_filter hnd]

/-- Keys stay distinct when a value is set. -/
theorem nodup_insert (v : Binding) (hnd : (Keyed.keys listing.entries).Nodup) :
    (Keyed.keys (listing.insert key v).entries).Nodup := by
  rw [insert_eq, Keyed.keys_append, Keyed.keys_erase]
  refine List.nodup_append.2 ⟨hnd.erase key, by simp, ?_⟩
  rintro a ha b hb rfl
  obtain rfl : a = key := by simpa using hb
  exact hnd.not_mem_erase ha

/-- A value that has been set is found. -/
theorem get?_insert_self {v : Binding} (hnd : (Keyed.keys listing.entries).Nodup) :
    (listing.insert key v).get? key = some v := by
  rw [get?, insert_eq, Keyed.get?_append, Keyed.get?_erase_self hnd]
  simp [Keyed.get?]

/-- Setting a value changes nothing under other keys. -/
theorem get?_insert_of_ne {k : Text} {v : Binding} (h : k ≠ key) :
    (listing.insert key v).get? k = listing.get? k := by
  rw [get?, insert_eq, Keyed.get?_append, Keyed.get?_erase_of_ne h]
  simp [Keyed.get?, get?, h.symm]

/-- Once a variable has been read over it, a listing has a value. -/
theorem entries_settle_ne_nil (listing : Listing) (v : Binding) :
    (listing.settle v).entries ≠ [] := by
  rw [settle]
  split
  · next hsup =>
    intro hnil
    rw [outcome, get?, hnil] at hsup
    cases hsup
  · simp [insert]

end Listing

/-! ## What reading starts from -/

/-- A listing that an environment may be read over: its keys are distinct and its values are marked
as defaults. -/
structure Listing.Initial (start : Listing) : Prop where
  nodup : (Keyed.keys start.entries).Nodup
  isDefault : ∀ p ∈ start.entries, p.2.schema.isDefault = true

/-- Defaults that have been set one after the other, starting from none. -/
inductive Defaults.Built : Defaults → Prop
  | empty : Built {}
  | insert {defaults : Defaults} (key : Text) (s : Setting) :
      Built defaults → Built (defaults.insert key s)

namespace Defaults

/-- Each key has one default. -/
theorem Built.nodup (h : defaults.Built) : (Keyed.keys defaults.entries).Nodup := by
  induction h with
  | empty => exact List.nodup_nil
  | insert key s _ ih => exact Keyed.nodup_keys_put ih

/-- Settings laid over such defaults give such defaults. -/
theorem Built.foldl (h : defaults.Built) (settings : List (Text × Setting)) :
    (settings.foldl (fun defaults (key, s) => defaults.insert key s) defaults).Built := by
  induction settings generalizing defaults with
  | nil => exact h
  | cons p rest ih => exact ih (h.insert p.1 p.2)

/-- The defaults that a list makes up. -/
theorem Built.ofList (settings : List (Text × Setting)) : (Defaults.ofList settings).Built :=
  Built.empty.foldl settings

end Defaults

/-- What a default for `key` stands for: its value, under a schema that names the key and the type,
is marked as a default, and is neither a legacy alias nor has a hook. -/
def Setting.binding (key : Text) (s : Setting) : Binding :=
  ⟨s.value, { key, type := s.type, legacy := false, isDefault := true, onFound := none }⟩

/-- What the defaults stand for, in their order. -/
def Defaults.bindings (defaults : Defaults) : Keyed Binding :=
  defaults.entries.map fun (key, s) => (key, s.binding key)

/-- What stands before an environment is read: the defaults, if they are wanted, and nothing
otherwise. -/
def Options.seeded (options : Options) : Keyed Binding :=
  if options.seed then options.defaults.bindings else []

/-- The listing of the defaults. -/
theorem Listing.entries_ofDefaults (defaults : Defaults) :
    (Listing.ofDefaults defaults).entries = defaults.bindings := rfl

/-- **The start, said by the options.** -/
theorem Options.entries_start (options : Options) : options.start.entries = options.seeded := by
  rw [start, seeded]
  cases options.seed with
  | true => exact Listing.entries_ofDefaults options.defaults
  | false => rfl

/-- The defaults stand under their keys, in their order. -/
theorem Listing.keys_ofDefaults :
    Keyed.keys (Listing.ofDefaults defaults).entries = Keyed.keys defaults.entries := by
  simp [ofDefaults, Keyed.keys, Function.comp_def]

/-- What is found among the defaults is what one of them stands for. -/
theorem Listing.get?_ofDefaults : (Listing.ofDefaults defaults).get? key =
    (defaults.get? key).map (Setting.binding key) := by
  rw [get?, ofDefaults, Defaults.get?]
  induction defaults.entries with
  | nil => rfl
  | cons p rest ih =>
    obtain ⟨k, s⟩ := p
    rw [List.map_cons, Keyed.get?, Keyed.get?]
    split
    · next hk =>
      rw [hk, Option.map_some]
      rfl
    · exact ih

/-- An environment may be read over defaults. -/
theorem Listing.ofDefaults_initial (h : defaults.Built) :
    (Listing.ofDefaults defaults).Initial where
  nodup := keys_ofDefaults ▸ h.nodup
  isDefault p hp := by
    obtain ⟨⟨key, s⟩, -, rfl⟩ := List.mem_map.1 hp
    rfl

/-- An environment may be read over nothing. -/
theorem Listing.empty_initial : Listing.Initial {} where
  nodup := List.nodup_nil
  isDefault p hp := by cases hp

/-- An environment may be read over what stands before it, whether the defaults are wanted or not.
-/
theorem Options.start_initial {options : Options} (h : options.defaults.Built) :
    options.start.Initial := by
  rw [start]
  split
  · exact Listing.ofDefaults_initial h
  · exact Listing.empty_initial

end UiBootstrap

import Mathlib.Data.Finset.Card
import UiBootstrap.Proofs.KeyedUpdates
import UiBootstrap.Proofs.Listing

/-!
# What the history of a listing says of it

A listing starts from a table of defaults, which may be empty, and is used by setting, dropping and
looking up keys. Setting and dropping write a key, each at a time of its own: the place of the use
in the history. The last write of each key (`Listing.lastWrite?`) and the table are all that
matters: they say what stands under the key (`Listing.held`), and the values that the last writes
leave stand in the order of their times behind the defaults that were never written
(`Listing.Traces`). One use more keeps it so (`Listing.Traces.access`), and `Listing.history_law`
says what that comes to for every history.
-/

namespace UiBootstrap

namespace Listing

/-- What a use leaves under the key that it writes. -/
structure Write where
  /-- The place of the use in the history, counted from zero. -/
  time : Nat
  /-- The value set there; a use that drops the key leaves none. -/
  value : Option Binding
  deriving DecidableEq, Repr

/-- The write that a use makes at a time. Looking a key up makes none. -/
def Access.write? (time : Nat) : Access → Option (Text × Write)
  | .insert key v => some (key, ⟨time, some v⟩)
  | .remove key => some (key, ⟨time, none⟩)
  | .get _ => none

/-- The writes of a history, in order. -/
def writes (history : List Access) : Keyed Write :=
  history.zipIdx.filterMap fun (use, time) => use.write? time

/-- The last write of a key. -/
def lastWrite? (history : List Access) (key : Text) : Option Write :=
  Keyed.get? key (writes history).reverse

/-- What a history leaves under a key: what its last write of the key does, or the default that the
table has for the key, if there is one and no write ever touched it. -/
def held (base : Defaults) (history : List Access) (key : Text) : Option Binding :=
  match lastWrite? history key with
  | some w => w.value
  | none => (base.get? key).map (Setting.binding key)

/-- A written key with its value and the time, if it has one. -/
def stamped? (p : Text × Write) : Option (Nat × Text × Binding) :=
  p.2.value.map fun v => (p.2.time, p.1, v)

/-- The values that the last writes of a history leave, with their times and keys, in the order of
the times. -/
def lasting (history : List Access) : List (Nat × Text × Binding) :=
  (Keyed.latest (writes history)).filterMap stamped?

/-- The listing after a history. -/
def accessAll (listing : Listing) (history : List Access) : Listing := history.foldl access listing

variable {base : Defaults} {listing : Listing} {history : List Access} {key k : Text} {v : Binding}
  {time : Nat}

/-! ## One use more -/

/-- A use behind a history makes its write at the end. -/
theorem writes_concat (history : List Access) (use : Access) :
    writes (history ++ [use]) = writes history ++ (use.write? history.length).toList := by
  rw [writes, List.zipIdx_append, List.filterMap_append, Nat.zero_add]
  cases h : use.write? history.length <;> simp [writes, h]

/-- Looking a key up writes nothing. -/
theorem writes_concat_get (history : List Access) (key : Text) :
    writes (history ++ [.get key]) = writes history := by
  rw [writes_concat]
  exact List.append_nil _

/-- A key that has just been written. -/
theorem lastWrite?_concat_self {use : Access} {w : Write}
    (h : use.write? history.length = some (key, w)) :
    lastWrite? (history ++ [use]) key = some w := by
  rw [lastWrite?, writes_concat, h, Option.toList_some, List.reverse_concat, Keyed.get?, if_pos rfl]

/-- The other keys. -/
theorem lastWrite?_concat_of_ne {use : Access} {w : Write}
    (h : use.write? history.length = some (key, w)) (hk : k ≠ key) :
    lastWrite? (history ++ [use]) k = lastWrite? history k := by
  rw [lastWrite?, writes_concat, h, Option.toList_some, List.reverse_concat, Keyed.get?,
    if_neg hk.symm, lastWrite?]

/-- Among stamped values, leaving out a key is leaving out its write. -/
theorem filterMap_stamped?_filter (key : Text) (l : Keyed Write) :
    (l.filter fun p => p.1 ≠ key).filterMap stamped? =
      (l.filterMap stamped?).filter fun e => e.2.1 ≠ key := by
  rw [List.filterMap_filter, List.filter_filterMap]
  refine List.filterMap_congr fun p _ => ?_
  cases hv : p.2.value <;> by_cases hk : p.1 = key <;> simp [stamped?, hv, hk, Option.filter_some]

/-- A write takes the value out that its key had, and puts its own at the end. -/
theorem lasting_concat {use : Access} {w : Write}
    (h : use.write? history.length = some (key, w)) :
    lasting (history ++ [use]) =
      (lasting history).filter (fun e => e.2.1 ≠ key) ++ (stamped? (key, w)).toList := by
  rw [lasting, writes_concat, h, Option.toList_some, Keyed.latest_concat, List.filterMap_append,
    filterMap_stamped?_filter]
  cases hs : stamped? (key, w) <;> simp [hs, lasting]

/-- `listing` is where a history has led that started from a table of defaults: each key has one
value, the one that is held, and the values stand in order, the defaults that were never written
first. -/
structure Traces (base : Defaults) (history : List Access) (listing : Listing) : Prop where
  nodup : (Keyed.keys listing.entries).Nodup
  get? : ∀ key, listing.get? key = held base history key
  entries : listing.entries = base.bindings.without (Keyed.keys (writes history)) ++
    (lasting history).map Prod.snd

namespace Traces

/-- Before any use there are the defaults. -/
theorem nil (hbuilt : base.Built) : Traces base [] (ofDefaults base) where
  nodup := (ofDefaults_initial hbuilt).nodup
  get? _ := get?_ofDefaults
  entries := by
    rw [entries_ofDefaults]
    exact (List.append_nil _).symm ▸ Keyed.without_nil.symm

/-- Dropping a key leaves the others as they are. -/
theorem entries_remove (h : Traces base history listing) (key : Text) :
    (listing.access (.remove key)).entries = listing.entries.filter fun p => p.1 ≠ key := by
  rw [Listing.access, remove_eq]
  exact Keyed.erase_eq_filter h.nodup

/-- Leaving out a key leaves it out of both parts. -/
theorem filter_entries (h : Traces base history listing) {use : Access} {w : Write}
    (huse : use.write? history.length = some (key, w)) :
    listing.entries.filter (fun p => p.1 ≠ key) =
      base.bindings.without (Keyed.keys (writes (history ++ [use]))) ++
        ((lasting history).filter fun e => e.2.1 ≠ key).map Prod.snd := by
  rw [h.entries, List.filter_append, writes_concat, huse, Option.toList_some, Keyed.keys_append,
    Keyed.keys_cons, Keyed.keys_nil, Keyed.without_concat, List.filter_map]
  rfl

/-- What is held after a write. -/
theorem held_concat {use : Access} {w : Write}
    (huse : use.write? history.length = some (key, w)) (k : Text) :
    held base (history ++ [use]) k = if k = key then w.value else held base history k := by
  split
  · next hk => rw [hk, held, lastWrite?_concat_self huse]
  · next hk => rw [held, lastWrite?_concat_of_ne huse hk, held]

/-- **One use more** leads on to where it should. -/
theorem access (h : Traces base history listing) (use : Access) :
    Traces base (history ++ [use]) (listing.access use) := by
  cases use with
  | insert key v =>
    have huse : (Access.insert key v).write? history.length =
      some (key, ⟨history.length, some v⟩) := rfl
    refine ⟨nodup_insert v h.nodup, fun k => ?_, ?_⟩
    · rw [held_concat huse]
      split
      · next hk => rw [hk]; exact get?_insert_self h.nodup
      · next hk => rw [← h.get?]; exact get?_insert_of_ne hk
    · have hentries : (listing.access (.insert key v)).entries =
          listing.entries.filter (fun p => p.1 ≠ key) ++ [(key, v)] := entries_insert h.nodup
      rw [hentries, h.filter_entries huse, lasting_concat huse, List.map_append, List.append_assoc]
      rfl
  | remove key =>
    have huse : (Access.remove key).write? history.length =
      some (key, ⟨history.length, none⟩) := rfl
    have hlisting : listing.access (.remove key) = ⟨listing.entries.erase key⟩ :=
      congrArg Prod.snd (remove_eq listing key)
    refine ⟨?_, fun k => ?_, ?_⟩
    · rw [hlisting]
      exact Keyed.nodup_keys_erase h.nodup
    · rw [held_concat huse, hlisting]
      split
      · next hk => rw [hk]; exact Keyed.get?_erase_self h.nodup
      · next hk => rw [← h.get?]; exact Keyed.get?_erase_of_ne hk
    · rw [h.entries_remove, h.filter_entries huse, lasting_concat huse, List.map_append,
        ← List.append_assoc]
      exact (List.append_nil _).symm
  | get key =>
    refine ⟨h.nodup, fun k => ?_, ?_⟩
    · rw [held, lastWrite?, writes_concat_get]
      exact h.get? k
    · rw [lasting, writes_concat_get]
      exact h.entries

/-- **Where a history leads.** -/
theorem accessAll (hbuilt : base.Built) (history : List Access) :
    Traces base history ((ofDefaults base).accessAll history) := by
  induction history using List.reverseRecOn with
  | nil => exact nil hbuilt
  | append_singleton history use ih =>
    rw [Listing.accessAll, List.foldl_concat]
    exact ih.access use

/-- What stands in a listing is what is held. -/
theorem mem_entries (h : Traces base history listing) :
    (key, v) ∈ listing.entries ↔ held base history key = some v := by
  rw [← h.get?]
  exact ⟨Keyed.get?_of_mem h.nodup, Keyed.mem_of_get?⟩

/-- The keys of a listing are those under which something is held. -/
theorem mem_keys (h : Traces base history listing) :
    key ∈ Keyed.keys listing.entries ↔ held base history key ≠ none := by
  rw [← h.get?, Listing.get?, ne_eq, Keyed.get?_eq_none_iff, not_not]

/-- What a use hands out is what is held: the value looked for, or the one removed. -/
theorem result (h : Traces base history listing) (key : Text) :
    Access.result listing (.get key) = held base history key ∧
      Access.result listing (.remove key) = held base history key := by
  refine ⟨h.get? key, ?_⟩
  rw [Access.result, remove_eq]
  exact h.get? key

/-- Dropping a key that is not there changes nothing. -/
theorem access_remove_of_none (h : Traces base history listing)
    (hkey : held base history key = none) : listing.access (.remove key) = listing := by
  have hall : listing.entries.filter (fun p => p.1 ≠ key) = listing.entries := by
    refine List.filter_eq_self.2 fun p hp => ?_
    have hne : p.1 ≠ key := fun hk => h.mem_keys.1 (hk ▸ List.mem_map_of_mem hp) hkey
    simpa using hne
  exact congrArg Listing.mk ((h.entries_remove key).trans hall)

/-- A listing is empty exactly if nothing is held. -/
theorem isEmpty_iff (h : Traces base history listing) :
    listing.isEmpty = true ↔ ∀ key, held base history key = none := by
  rw [isEmpty, List.isEmpty_iff]
  constructor
  · intro hempty key
    by_contra hkey
    have hmem : key ∈ Keyed.keys listing.entries := h.mem_keys.2 hkey
    rw [hempty] at hmem
    cases hmem
  · intro hnone
    refine List.eq_nil_iff_forall_not_mem.2 fun p hp => ?_
    exact h.mem_keys.1 (List.mem_map_of_mem hp) (hnone p.1)

end Traces

/-! ## The values that last -/

/-- The writes of a history stand in the order of their times. -/
theorem pairwise_writes (history : List Access) :
    (writes history).Pairwise fun p q => p.2.time < q.2.time := by
  have htimes : history.zipIdx.Pairwise fun p q => p.2 < q.2 := by
    rw [← List.pairwise_map (f := Prod.snd) (R := fun a b : Nat => a < b), List.zipIdx_map_snd]
    exact List.pairwise_lt_range' 1
  refine htimes.filterMap _ fun (use, time) (use', time') hlt p hp q hq => ?_
  have htime : ∀ (use : Access) (time : Nat) (p : Text × Write),
      use.write? time = some p → p.2.time = time := by
    rintro (⟨key, v⟩ | key | key) time p hp <;> cases hp <;> rfl
  rw [htime use time p hp, htime use' time' q hq]
  exact hlt

/-- Lasting values stand in the order of their times. -/
theorem pairwise_lasting (history : List Access) :
    (lasting history).Pairwise fun e e' => e.1 < e'.1 := by
  refine ((pairwise_writes history).sublist Keyed.latest_sublist).filterMap _ ?_
  intro p q hlt e he e' he'
  obtain ⟨v, -, rfl⟩ := Option.map_eq_some_iff.1 he
  obtain ⟨v', -, rfl⟩ := Option.map_eq_some_iff.1 he'
  exact hlt

/-- The lasting values are those that the last writes leave. -/
theorem mem_lasting_iff :
    (time, key, v) ∈ lasting history ↔ lastWrite? history key = some ⟨time, some v⟩ := by
  have hnd : (Keyed.keys (Keyed.latest (writes history))).Nodup := by
    rw [Keyed.keys_latest]
    exact List.nodup_dedup _
  rw [lastWrite?, ← Keyed.get?_latest, lasting, List.mem_filterMap]
  constructor
  · rintro ⟨⟨k, t, value⟩, hmem, hp⟩
    obtain ⟨v', hv, heq⟩ := Option.map_eq_some_iff.1 hp
    cases heq
    exact Keyed.get?_of_mem hnd (hv ▸ hmem)
  · exact fun h => ⟨_, Keyed.mem_of_get? h, rfl⟩

/-- A key is never written exactly if it has no last write. -/
theorem lastWrite?_eq_none_iff :
    lastWrite? history key = none ↔ key ∉ Keyed.keys (writes history) := by
  rw [lastWrite?, Keyed.get?_eq_none_iff, Keyed.keys, List.map_reverse, List.mem_reverse,
    Keyed.keys]

/-! ## The law -/

/-- **The law of listings.** Let a listing start with nothing in it or with a table of defaults, and
be used in any way. Then each key stands in it at most once. Looking a key up or dropping it hands
out what the last write of the key left there, or the default that the table has for it, under a
default's schema, if no write ever touched it. The entries are the defaults that were never touched,
in the order of the table, and then the values that the last writes left, in the order of the times
at which they were set. Dropping a key leaves all others as they are, and dropping one that is not
there, or looking one up, changes nothing. The size is the number of keys with a value, and the
listing is empty exactly if there are none. -/
theorem history_law (base : Defaults) (start : Listing)
    (hstart : base = {} ∧ start = {} ∨ base.Built ∧ start = ofDefaults base)
    (history : List Access) :
    let listing := start.accessAll history
    (Keyed.keys listing.entries).Nodup ∧
      (∀ key, Access.result listing (.get key) = held base history key ∧
        Access.result listing (.remove key) = held base history key) ∧
      (∀ key v, (key, v) ∈ listing.entries ↔ held base history key = some v) ∧
      (∃ later : List (Nat × Text × Binding),
        listing.entries =
          (base.entries.filter fun p => lastWrite? history p.1 = none).map
            (fun p => (p.1, p.2.binding p.1)) ++ later.map Prod.snd ∧
        later.Pairwise (fun e e' => e.1 < e'.1) ∧
        ∀ time key v, (time, key, v) ∈ later ↔ lastWrite? history key = some ⟨time, some v⟩) ∧
      (∀ key, (listing.access (.remove key)).entries = listing.entries.filter fun p => p.1 ≠ key) ∧
      (∀ key, held base history key = none → listing.access (.remove key) = listing) ∧
      (∀ key, listing.access (.get key) = listing) ∧
      (∃ present : Finset Text, (∀ key, key ∈ present ↔ held base history key ≠ none) ∧
        listing.size = present.card) ∧
      (listing.isEmpty = true ↔ ∀ key, held base history key = none) := by
  intro listing
  have h : Traces base history listing := by
    rcases hstart with ⟨rfl, rfl⟩ | ⟨hbuilt, rfl⟩
    · exact .accessAll .empty history
    · exact .accessAll hbuilt history
  refine ⟨h.nodup, h.result, fun _ _ => h.mem_entries, ?_, h.entries_remove,
    fun _ => h.access_remove_of_none, fun _ => rfl, ?_, h.isEmpty_iff⟩
  · refine ⟨lasting history, ?_, pairwise_lasting history, fun _ _ _ => mem_lasting_iff⟩
    rw [h.entries, Keyed.without, Defaults.bindings, List.filter_map]
    simp only [lastWrite?_eq_none_iff]
    rfl
  · refine ⟨(Keyed.keys listing.entries).toFinset, fun key => ?_, ?_⟩
    · rw [List.mem_toFinset, h.mem_keys]
    · rw [List.toFinset_card_of_nodup h.nodup, Keyed.keys, List.length_map, size]

/-- Over the built-in defaults: a default that is never touched keeps its place and its value, one
that is set twice stands where the second write puts it, one that is dropped and set again goes to
the end, and a key that is set and dropped is gone. -/
theorem history_law_standard :
    let a : Binding := ⟨"a", .ofType "url" .string⟩
    let b : Binding := ⟨"b", .ofType "url" .object⟩
    let history : List Access := [.insert "url" a, .get "layout", .remove "presets",
      .insert "theme" a, .insert "url" b, .remove "theme", .insert "presets" a, .remove "none"]
    let listing := (ofDefaults .standard).accessAll history
    Defaults.standard.Built ∧
      (Keyed.keys listing.entries).Nodup ∧
      Access.result listing (.get "dom_id") =
        some ⟨"#swagger-ui", { key := "dom_id", isDefault := true }⟩ ∧
      Access.result listing (.remove "deepLinking") =
        some ⟨"true", { key := "deepLinking", type := .boolean, isDefault := true }⟩ ∧
      Access.result listing (.remove "url") = some b ∧
      Access.result listing (.get "theme") = none ∧
      listing.access (.remove "theme") = listing ∧
      (∃ later : List (Nat × Text × Binding),
        listing.entries.map (fun p => (p.1, p.2.value)) =
          ([("dom_id", "#swagger-ui"), ("deepLinking", "true"), ("plugins", Defaults.plugins),
            ("layout", "StandaloneLayout"),
            ("requestInterceptor", Defaults.requestInterceptor)] : List (Text × Text)) ++
              later.map (fun e => (e.2.1, e.2.2.value)) ∧
        (4, "url".toList, b) ∈ later ∧ (6, "presets".toList, a) ∈ later) ∧
      listing.isEmpty = false := by
  intro a b history listing
  have hbuilt : Defaults.standard.Built := .ofList _
  obtain ⟨hnd, hresult, -, ⟨later, hentries, -, hlater⟩, -, habsent, -, -, hempty⟩ :=
    history_law .standard (ofDefaults .standard) (.inr ⟨hbuilt, rfl⟩) history
  have htheme : held .standard history "theme" = none := by decide +kernel
  have hurl : held .standard history "url" = some b := by decide +kernel
  refine ⟨hbuilt, hnd, (hresult _).1.trans (by decide +kernel),
    (hresult _).2.trans (by decide +kernel), (hresult _).2.trans hurl, (hresult _).1.trans htheme,
    habsent _ htheme, ⟨later, ?_, (hlater _ _ _).2 (by decide +kernel),
      (hlater _ _ _).2 (by decide +kernel)⟩, ?_⟩
  · have hvalues := congrArg (List.map fun p => (p.1, p.2.value)) hentries
    rw [List.map_append, List.map_map (l := later)] at hvalues
    refine hvalues.trans (congrArg (· ++ _) ?_)
    decide +kernel
  · refine Bool.eq_false_iff.2 fun h => ?_
    rw [hempty.1 h] at hurl
    cases hurl

end Listing

end UiBootstrap

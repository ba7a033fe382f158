import Mathlib.Data.List.Dedup
import UiBootstrap.Keyed

/-!
# Writes to a keyed list

A write drops the value under its key and appends the new one. In a list with distinct keys that is
a filter (`Keyed.erase_eq_filter`), so what a run of writes leaves of the first list is a filter too
(`Keyed.without`), and what it adds are the writes that no later one undoes (`Keyed.latest`).

Two such lists are told apart by their keys and by what is found in them: they are equal if they
have the same keys in the same order (`Keyed.ext_get?`), and differ in order only if the same is
found under every key (`Keyed.perm_of_get?`).
-/

namespace UiBootstrap

namespace Keyed

variable {α : Type} {key k : Text} {value : α} {l m : Keyed α}

/-- The entries under none of the given keys, in order. -/
def without (ks : List Text) (l : Keyed α) : Keyed α := l.filter fun p => p.1 ∉ ks

/-- The last value under each key, in the order in which they stand. -/
def latest : Keyed α → Keyed α
  | [] => []
  | p :: rest => if p.1 ∈ keys rest then latest rest else p :: latest rest

/-! ## What is found -/

/-- What is found under a key stands there. -/
theorem mem_of_get? (h : get? key l = some value) : (key, value) ∈ l := by
  induction l with
  | nil => cases h
  | cons p rest ih =>
    simp only [get?] at h
    split at h
    · next hk =>
      obtain rfl := Option.some.inj h
      subst hk
      exact List.mem_cons_self
    · exact List.mem_cons_of_mem _ (ih h)

/-- Where keys are distinct, what stands under a key is found. -/
theorem get?_of_mem (hnd : (keys l).Nodup) (h : (key, value) ∈ l) : get? key l = some value := by
  induction l with
  | nil => cases h
  | cons p rest ih =>
    rw [keys_cons, List.nodup_cons] at hnd
    rcases List.mem_cons.1 h with rfl | h
    · simp [get?]
    · have hne : p.1 ≠ key := fun hk => hnd.1 (hk ▸ List.mem_map_of_mem h)
      rw [get?, if_neg hne, ih hnd.2 h]

/-- Lists with the same distinct keys, in the same order, are equal if the same is found in them. -/
theorem ext_get? (hkeys : keys l = keys m) (hnd : (keys l).Nodup)
    (h : ∀ k, get? k l = get? k m) : l = m := by
  induction l generalizing m with
  | nil => exact (List.map_eq_nil_iff.1 hkeys.symm).symm
  | cons p l ih =>
    cases m with
    | nil => cases hkeys
    | cons q m =>
      obtain ⟨k, a⟩ := p
      obtain ⟨k', b⟩ := q
      obtain ⟨rfl, htail⟩ : k = k' ∧ keys l = keys m := List.cons.inj hkeys
      have hnd' := List.nodup_cons.1 hnd
      have hab : a = b := by simpa [get?] using h k
      have hrest : ∀ k', get? k' l = get? k' m := fun k' => by
        by_cases hk : k = k'
        · subst hk
          rw [get?_eq_none_iff.2 hnd'.1, get?_eq_none_iff.2 (htail ▸ hnd'.1)]
        · simpa [get?, hk] using h k'
      rw [hab, ih htail hnd'.2 hrest]

/-- Lists with distinct keys differ in order only if the same is found in them. -/
theorem perm_of_get? (hl : (keys l).Nodup) (hm : (keys m).Nodup)
    (h : ∀ k, get? k l = get? k m) : l.Perm m := by
  refine (List.perm_ext_iff_of_nodup hl.of_map hm.of_map).2 fun p => ?_
  constructor
  · exact fun hp => mem_of_get? ((h p.1).symm.trans (get?_of_mem hl hp))
  · exact fun hp => mem_of_get? ((h p.1).trans (get?_of_mem hm hp))

/-! ## One write -/

/-- Where keys are distinct, dropping one is keeping the others. -/
theorem erase_eq_filter (hnd : (keys l).Nodup) : erase key l = l.filter fun p => p.1 ≠ key := by
  induction l with
  | nil => rfl
  | cons p rest ih =>
    rw [keys_cons, List.nodup_cons] at hnd
    by_cases hk : p.1 = key
    · have hrest : rest.filter (fun q => q.1 ≠ key) = rest := by
        refine List.filter_eq_self.2 fun q hq => ?_
        have : q.1 ≠ key := by
          rintro rfl
          exact hnd.1 (hk ▸ List.mem_map_of_mem hq)
        simpa using this
      rw [List.filter_cons_of_neg (by simp [hk]), hrest]
      simp [erase, hk]
    · rw [List.filter_cons_of_pos (by simp [hk]), ← ih hnd.2]
      simp [erase, hk]

/-! ## What a run of writes leaves -/

@[simp] theorem without_nil : without [] l = l := by simp [without]

/-- What is left out depends on which keys are given, and not on their order. -/
theorem without_congr {ks ks' : List Text} (h : ∀ k, k ∈ ks ↔ k ∈ ks') :
    without ks l = without ks' l :=
  List.filter_congr fun p _ => by simp [h p.1]

/-- Leaving out one key more is a filter on top. -/
theorem without_concat (ks : List Text) :
    without (ks ++ [key]) l = (without ks l).filter fun p => p.1 ≠ key := by
  rw [without, without, List.filter_filter]
  refine List.filter_congr fun p _ => ?_
  simp [not_or, and_comm]

/-- Leaving out a key twice is leaving it out once. -/
theorem without_concat_of_mem {ks : List Text} (h : key ∈ ks) :
    without (ks ++ [key]) l = without ks l := by
  refine without_congr fun k => ?_
  rw [List.mem_append, List.mem_singleton]
  exact ⟨fun h' => h'.elim id (· ▸ h), .inl⟩

/-! ## What a run of writes adds -/

/-- What a run of writes adds stands in it, in the same order. -/
theorem latest_sublist : (latest l).Sublist l := by
  induction l with
  | nil => exact .refl []
  | cons p rest ih =>
    rw [latest]
    split
    · exact ih.cons p
    · exact ih.cons_cons p

/-- A run of writes adds each of its keys once, in the order of their last writes. -/
theorem keys_latest : keys (latest l) = (keys l).dedup := by
  induction l with
  | nil => rfl
  | cons p rest ih =>
    rw [latest, keys_cons]
    split
    · next h => rw [ih, List.dedup_cons_of_mem h]
    · next h => rw [keys_cons, ih, List.dedup_cons_of_notMem h]

/-- A write behind the others undoes the earlier ones under its key. -/
theorem latest_concat (p : Text × α) :
    latest (l ++ [p]) = (latest l).filter (fun q => q.1 ≠ p.1) ++ [p] := by
  induction l with
  | nil => simp [latest]
  | cons q rest ih =>
    have hmem : q.1 ∈ keys (rest ++ [p]) ↔ q.1 ∈ keys rest ∨ q.1 = p.1 := by simp
    rw [List.cons_append, latest, latest, ih]
    by_cases hq : q.1 ∈ keys rest
    · rw [if_pos (hmem.2 (.inl hq)), if_pos hq]
    · by_cases hp : q.1 = p.1
      · rw [if_pos (hmem.2 (.inr hp)), if_neg hq, List.filter_cons_of_neg (by simp [hp])]
      · rw [if_neg fun h => (hmem.1 h).elim hq hp, if_neg hq,
          List.filter_cons_of_pos (by simp [hp]), List.cons_append]

/-- A write that a later one undoes might as well not have been. -/
theorem latest_append_cons_of_mem (h : key ∈ keys m) :
    latest (l ++ (key, value) :: m) = latest (l ++ m) := by
  induction l with
  | nil => exact if_pos h
  | cons p rest ih =>
    have hmem : p.1 ∈ keys (rest ++ (key, value) :: m) ↔ p.1 ∈ keys (rest ++ m) := by
      rw [keys_append, keys_cons, keys_append, List.mem_append, List.mem_append, List.mem_cons]
      exact or_congr_right ⟨fun h' => h'.elim (· ▸ h) id, .inr⟩
    rw [List.cons_append, List.cons_append, latest, latest, ih]
    simp only [hmem]

end Keyed

end UiBootstrap

import UiBootstrap.Proofs.KeyedWrites

/-!
# Updates of a keyed list

An update sets a key in its place, or at the end if it is new. A run of updates (`Keyed.putAll`)
therefore leaves the keys in the order of their first appearance (`Keyed.keys_putAll`) with the
values of their last (`Keyed.get?_putAll`): what is found under a key is what is found first when
the updates are searched from behind.
-/

namespace UiBootstrap

namespace Keyed

variable {α β : Type} {key k : Text} {value : α} {l m n : Keyed α}

/-- The list after a run of updates. -/
def putAll (l m : Keyed α) : Keyed α := m.foldl (fun l p => l.put p.1 p.2) l

/-- One update, and then the others. -/
theorem putAll_cons (p : Text × α) : putAll l (p :: m) = putAll (put p.1 p.2 l) m := rfl

/-- Two runs of updates are one. -/
theorem putAll_append : putAll l (m ++ n) = putAll (putAll l m) n := List.foldl_append

/-- **Keys stand in the order of their first appearance**: those that were there before, and then
the new ones of the updates. -/
theorem keys_putAll :
    keys (putAll l m) = keys l ++ ((keys m).filter fun k => k ∉ keys l).eraseDups := by
  induction m generalizing l with
  | nil => exact (List.append_nil _).symm
  | cons p m ih =>
    rw [putAll_cons, ih, keys_cons]
    by_cases hp : p.1 ∈ keys l
    · rw [keys_put_of_mem hp, List.filter_cons_of_neg (by simpa using hp)]
    · have hfilter : (keys m).filter (fun k => k ∉ keys l ++ [p.1]) =
          ((keys m).filter fun k => k ∉ keys l).filter fun k => !k == p.1 := by
        rw [List.filter_filter]
        refine List.filter_congr fun k _ => ?_
        by_cases hk : k = p.1 <;> simp [hk]
      rw [put_of_not_mem hp, keys_append, List.filter_cons_of_pos (by simpa using hp),
        List.eraseDups_cons, keys_cons, keys_nil, hfilter, List.append_assoc]
      rfl

/-- Keys stay distinct under updates. -/
theorem nodup_keys_putAll (h : (keys l).Nodup) : (keys (putAll l m)).Nodup := by
  induction m generalizing l with
  | nil => exact h
  | cons p m ih => exact ih (nodup_keys_put h)

/-- **Under each key stands its last update**, or what stood there before. -/
theorem get?_putAll : get? k (putAll l m) = (get? k m.reverse).or (get? k l) := by
  induction m generalizing l with
  | nil => rfl
  | cons p m ih =>
    have hone : get? k (put p.1 p.2 l) = (get? k [p]).or (get? k l) := by
      by_cases hk : k = p.1
      · rw [hk, get?_put_self, get?, if_pos rfl, Option.some_or]
      · rw [get?_put_of_ne hk, get?, if_neg (Ne.symm hk), get?, Option.none_or]
    rw [putAll_cons, ih, hone, List.reverse_cons, get?_append, Option.or_assoc]

/-- Updates made before leave nothing to be done. -/
theorem putAll_putAll_self (h : (keys l).Nodup) : putAll (putAll l m) m = putAll l m := by
  refine ext_get? ?_ (nodup_keys_putAll (nodup_keys_putAll h)) fun k => ?_
  · have hknown : ∀ k ∈ keys m, k ∈ keys (putAll l m) := by
      intro k hk
      rw [keys_putAll, List.mem_append, List.mem_eraseDups, List.mem_filter]
      by_cases hl : k ∈ keys l
      · exact .inl hl
      · exact .inr ⟨hk, by simpa using hl⟩
    have hnew : ((keys m).filter fun k => k ∉ keys (putAll l m)) = [] :=
      List.filter_eq_nil_iff.2 fun k hk => by simpa using hknown k hk
    rw [keys_putAll (l := putAll l m), hnew, List.eraseDups_nil, List.append_nil]
  · rw [get?_putAll, get?_putAll, ← Option.or_assoc, Option.or_self]

/-- Where keys are distinct, none stands twice. -/
theorem not_mem_keys_of_nodup {p : Text × α} (h : (keys (l ++ p :: m)).Nodup) : p.1 ∉ keys l := by
  rw [keys_append, keys_cons] at h
  exact fun hmem => (List.nodup_append.1 h).2.2 _ hmem _ List.mem_cons_self rfl

/-- A new value at the end is found. -/
theorem get?_concat_self (h : key ∉ keys l) : get? key (l ++ [(key, value)]) = some value := by
  rw [get?_append, get?_eq_none_iff.2 h, Option.none_or, get?, if_pos rfl]

/-- A value at the end is set in its place. -/
theorem put_concat_self (h : key ∉ keys l) (a : α) :
    put key value (l ++ [(key, a)]) = l ++ [(key, value)] := by
  induction l with
  | nil => exact if_pos rfl
  | cons p l ih =>
    rw [keys_cons, List.mem_cons, not_or] at h
    rw [List.cons_append, put, if_neg (Ne.symm h.1), ih h.2, List.cons_append]

/-- An update brings in nothing but itself. -/
theorem mem_put {p : Text × α} (h : p ∈ put key value l) : p = (key, value) ∨ p ∈ l := by
  induction l with
  | nil => exact .inl (List.mem_singleton.1 h)
  | cons q l ih =>
    rw [put] at h
    split at h
    · exact (List.mem_cons.1 h).imp_right (List.mem_cons_of_mem q)
    · rcases List.mem_cons.1 h with rfl | h
      · exact .inr List.mem_cons_self
      · exact (ih h).imp_right (List.mem_cons_of_mem q)

/-- A run of updates brings in nothing but the updates. -/
theorem mem_putAll {p : Text × α} (h : p ∈ putAll l m) : p ∈ m ∨ p ∈ l := by
  induction m generalizing l with
  | nil => exact .inr h
  | cons q m ih =>
    rcases ih h with h | h
    · exact .inl (List.mem_cons_of_mem q h)
    · rcases mem_put h with rfl | h
      · exact .inl List.mem_cons_self
      · exact .inr h

/-! ## Searching -/

/-- Where keys are distinct, the order of a list is of no matter to what is found in it. -/
theorem get?_perm (hnd : (keys l).Nodup) (h : l.Perm m) (k : Text) : get? k l = get? k m := by
  have hnd' : (keys m).Nodup := (h.map Prod.fst).nodup_iff.1 hnd
  cases hk : get? k m with
  | none =>
    rw [get?_eq_none_iff] at hk ⊢
    exact fun hmem => hk ((h.map Prod.fst).mem_iff.1 hmem)
  | some a => exact get?_of_mem hnd (h.mem_iff.2 (mem_of_get? hk))

/-- What is found under a key among changed values is the change of what was found. -/
theorem get?_map (f : α → β) : get? k (l.map fun p => (p.1, f p.2)) = (get? k l).map f := by
  induction l with
  | nil => rfl
  | cons p l ih =>
    rw [List.map_cons, get?, get?]
    split
    · rfl
    · exact ih

/-- Of the values under a key, the last is kept. -/
theorem get?_latest : get? k (latest l) = get? k l.reverse := by
  induction l with
  | nil => rfl
  | cons p l ih =>
    have hrest : get? k l.reverse = none ↔ k ∉ keys l := by
      rw [get?_eq_none_iff, keys, List.map_reverse, List.mem_reverse, ← keys]
    rw [List.reverse_cons, get?_append, latest]
    split
    · next hp =>
      rw [ih]
      cases hk : get? k l.reverse with
      | some a => rfl
      | none =>
        have hne : p.1 ≠ k := fun h => hrest.1 hk (h ▸ hp)
        rw [Option.none_or, get?, if_neg hne, get?]
    · next hp =>
      rw [get?, ih]
      split
      · next hk =>
        rw [hrest.2 (hk ▸ hp), Option.none_or, get?, if_pos hk]
      · next hk => rw [get?, if_neg hk, get?, Option.or_none]

end Keyed

end UiBootstrap

import UiBootstrap.Text.Basic

/-!
# Keyed lists

Values with a key each, in an order that shows in what is written from them. There are two ways to
change a value: `put` keeps the place of a key that is there already, and `erase` followed by an
append moves it to the end.

The view of a keyed list is its keys, in order, and what `get?` finds under each; every operation is
described by the lemmas on the two. `nodup_keys_put` and `nodup_keys_erase` say that keys stay
distinct.
-/

namespace UiBootstrap

/-- Values with a key each, in order. -/
abbrev Keyed (α : Type) := List (Text × α)

namespace Keyed

variable {α : Type} {key k : Text} {value : α} {l m : Keyed α}

/-- The keys, in order. -/
def keys (l : Keyed α) : List Text := l.map Prod.fst

/-- The first value under `key`. -/
def get? (key : Text) : Keyed α → Option α
  | [] => none
  | (k, a) :: rest => if k = key then some a else get? key rest

/-- Sets a key: in its place if it is there, at the end if it is new. -/
def put (key : Text) (value : α) : Keyed α → Keyed α
  | [] => [(key, value)]
  | (k, a) :: rest => if k = key then (key, value) :: rest else (k, a) :: put key value rest

/-- Drops the first value under `key`. -/
def erase (key : Text) : Keyed α → Keyed α
  | [] => []
  | (k, a) :: rest => if k = key then rest else (k, a) :: erase key rest

/-- Takes the first value under `key` out: the value, if there is one, and what is left. -/
def pop (key : Text) : Keyed α → Option α × Keyed α
  | [] => (none, [])
  | (k, a) :: rest =>
    if k = key then (some a, rest)
    else
      let (taken, left) := pop key rest
      (taken, (k, a) :: left)

@[simp] theorem keys_nil : keys ([] : Keyed α) = [] := rfl

@[simp] theorem keys_cons {p : Text × α} : keys (p :: l) = p.1 :: keys l := rfl

@[simp] theorem keys_append : keys (l ++ m) = keys l ++ keys m := List.map_append

/-! ## What is found -/

/-- Nothing is found exactly under the keys that are not there. -/
theorem get?_eq_none_iff : get? key l = none ↔ key ∉ keys l := by
  induction l with
  | nil => simp [get?]
  | cons p rest ih =>
    simp only [get?, keys_cons, List.mem_cons, not_or]
    split
    · next h => simp [h]
    · next h => simpa [Ne.symm h] using ih

/-- Of two lists one behind the other the first is asked first. -/
theorem get?_append : get? key (l ++ m) = (get? key l).or (get? key m) := by
  induction l with
  | nil => rfl
  | cons p rest ih =>
    simp only [List.cons_append, get?]
    split
    · rfl
    · exact ih

/-- A key that has been set is found. -/
theorem get?_put_self : get? key (put key value l) = some value := by
  induction l with
  | nil => simp [put, get?]
  | cons p rest ih =>
    simp only [put]
    split
    · simp [get?]
    · next h => simp [get?, h, ih]

/-- Setting a key changes no other. -/
theorem get?_put_of_ne (h : k ≠ key) : get? k (put key value l) = get? k l := by
  induction l with
  | nil => simp [put, get?, h.symm]
  | cons p rest ih =>
    simp only [put]
    split
    · next hk => simp [get?, h.symm, hk]
    · simp [get?, ih]

/-- What is taken out is what is found, and what is left is all but that. -/
theorem pop_eq : pop key l = (get? key l, erase key l) := by
  induction l with
  | nil => rfl
  | cons p rest ih =>
    simp only [pop, get?, erase]
    split
    · rfl
    · rw [ih]

/-- Dropping a key changes no other. -/
theorem get?_erase_of_ne (h : k ≠ key) : get? k (erase key l) = get? k l := by
  induction l with
  | nil => rfl
  | cons p rest ih =>
    simp only [erase]
    split
    · next hk => simp [get?, hk, h.symm]
    · simp [get?, ih]

/-! ## The keys -/

/-- A key that is there keeps its place. -/
theorem keys_put_of_mem (h : key ∈ keys l) : keys (put key value l) = keys l := by
  induction l with
  | nil => simp at h
  | cons p rest ih =>
    simp only [put]
    split
    · next hk => simp [hk]
    · next hk =>
      rw [keys_cons, List.mem_cons] at h
      simp [ih (h.resolve_left (Ne.symm hk))]

/-- A new key goes to the end. -/
theorem put_of_not_mem (h : key ∉ keys l) : put key value l = l ++ [(key, value)] := by
  induction l with
  | nil => rfl
  | cons p rest ih =>
    rw [keys_cons, List.mem_cons, not_or] at h
    simp [put, Ne.symm h.1, ih h.2]

/-- Dropping a key takes it out of the keys. -/
theorem keys_erase : keys (erase key l) = (keys l).erase key := by
  induction l with
  | nil => rfl
  | cons p rest ih =>
    simp only [erase, keys_cons, List.erase_cons, beq_iff_eq]
    split
    · rfl
    · simp [ih]

/-- Keys stay distinct when one is set. -/
theorem nodup_keys_put (h : (keys l).Nodup) : (keys (put key value l)).Nodup := by
  by_cases hk : key ∈ keys l
  · rwa [keys_put_of_mem hk]
  · rw [put_of_not_mem hk, keys_append]
    refine List.nodup_append.2 ⟨h, by simp, ?_⟩
    rintro a ha b hb rfl
    obtain rfl : a = key := List.mem_singleton.1 hb
    exact hk ha

/-- Keys stay distinct when one is dropped. -/
theorem nodup_keys_erase (h : (keys l).Nodup) : (keys (erase key l)).Nodup :=
  keys_erase ▸ h.erase key

/-- Where keys are distinct, a key that has been dropped is gone. -/
theorem get?_erase_self (h : (keys l).Nodup) : get? key (erase key l) = none := by
  rw [get?_eq_none_iff, keys_erase]
  exact h.not_mem_erase

end Keyed

end UiBootstrap

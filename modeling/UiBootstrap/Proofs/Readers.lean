import UiBootstrap.Toml.Literal

/-!
# Reading what was written

A reader that takes items off the front of a text goes on while it can (`Toml.Items`), and a bound
on the number of items that is no less than the number of characters keeps none back
(`Toml.Items.many`). So items that are each read back, whatever follows them, are read back one
behind the other (`Toml.Items.flatMap`), and a string that is written character by character is read
back up to its closing quote (`Toml.shortString?_flatMap`). Items that have been taken apart already
are read if each of them is (`mapM_eq_some_iff`).
-/

namespace UiBootstrap

/-- Two characters differ if something holds of one and not of the other. -/
theorem ne_of_holds {p : Char → Bool} {c d : Char} (hc : p c = true) (hd : p d = false) :
    c ≠ d := by
  rintro rfl
  rw [hc] at hd
  cases hd

/-- What holds of the thirty-two control characters holds of every character below the space. -/
theorem forall_control {p : Char → Prop} (h : ∀ i : Fin 0x20, p (Char.ofNat i)) {c : Char}
    (hc : c.toNat < 0x20) : p c := by
  have hp := h ⟨c.toNat, hc⟩
  rwa [Char.ofNat_toNat] at hp

section Items

variable {α β : Type} {read : α → Option β} {a : α} {as : List α} {bs : List β}

/-- Items are read one after the other. -/
theorem mapM_cons_eq_some_iff : (a :: as).mapM read = some bs ↔
    ∃ b, read a = some b ∧ ∃ bs', as.mapM read = some bs' ∧ b :: bs' = bs := by
  simp only [List.mapM_cons, Option.bind_eq_bind, Option.bind_eq_some_iff, Option.pure_def,
    Option.some.injEq]

/-- Items are read if each of them is. -/
theorem mapM_eq_some_iff : as.mapM read = some bs ↔ as.map read = bs.map some := by
  induction as generalizing bs with
  | nil => cases bs <;> simp
  | cons a as ih =>
    rw [mapM_cons_eq_some_iff]
    cases bs with
    | nil => simp
    | cons b bs => simp [ih]

end Items

namespace Toml

variable {α : Type} {item : Reader α} {a : α} {as : List α} {cs mid rest : Text} {n : Nat}

/-- A reader takes these items off the front of a text, and no more; every one has a character. -/
inductive Items (item : Reader α) : Text → List α → Text → Prop
  | stop {cs : Text} (h : item cs = none) : Items item cs [] cs
  | next {a : α} {as : List α} {cs mid rest : Text} (h : item cs = some (a, mid))
      (hlen : mid.length < cs.length) (more : Items item mid as rest) : Items item cs (a :: as) rest

/-- A bound that the length of the text does not exceed is none. -/
theorem Items.upTo (h : Items item cs as rest) (hn : cs.length ≤ n) :
    upTo item n cs = (as, rest) := by
  induction h generalizing n with
  | stop h =>
    cases n with
    | zero => rfl
    | succ n => rw [Toml.upTo, h]
  | next h hlen more ih =>
    cases n with
    | zero => omega
    | succ n =>
      rw [Toml.upTo, h]
      simp only [ih (n := n) (by omega)]

/-- **The items are taken off.** -/
theorem Items.many (h : Items item cs as rest) : many item cs = (as, rest) := h.upTo (Nat.le_refl _)

/-- Items with a sign between each and the next. -/
theorem separated?_of_items {sign : Char} (h : item cs = some (a, mid))
    (more : Items (behind? sign item) mid as rest) :
    separated? sign item cs = some (a :: as, rest) := by
  rw [separated?, h]
  simp only [Option.bind_eq_bind, Option.bind_some, more.many]
  rfl

/-- One item that stands alone. -/
theorem separated?_of_none {sign : Char} (h : item cs = some (a, mid))
    (hnone : char? sign mid = none) : separated? sign item cs = some ([a], mid) :=
  separated?_of_items h (.stop (by rw [behind?, hnone, Option.bind_none]))

/-- **Items that are written one behind the other are taken off**, if each is read back whatever
follows it. -/
theorem Items.flatMap {write : α → Text} (hstop : item rest = none)
    (h : ∀ a ∈ as, write a ≠ [] ∧ ∀ rest, item (write a ++ rest) = some (a, rest)) :
    Items item (as.flatMap write ++ rest) as rest := by
  induction as with
  | nil => exact .stop hstop
  | cons a as ih =>
    obtain ⟨hne, ha⟩ := h a List.mem_cons_self
    rw [List.flatMap_cons, List.append_assoc]
    refine .next (ha _) ?_ (ih fun b hb => h b (List.mem_cons_of_mem a hb))
    have := List.length_pos_iff.2 hne
    simp only [List.length_append]
    omega

/-- **A string that is written character by character is read back.** -/
theorem shortString?_flatMap {item : Reader Char} {write : Char → Text} {quote : Char} {t : Text}
    (hstop : item (quote :: rest) = none)
    (h : ∀ c ∈ t, write c ≠ [] ∧ ∀ rest, item (write c ++ rest) = some (c, rest)) :
    shortString? item quote (t.flatMap write ++ quote :: rest) = some (t, rest) := by
  rw [shortString?, (Items.flatMap hstop h).many]
  simp [char?]

end Toml

end UiBootstrap

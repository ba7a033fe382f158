import UiBootstrap.Proofs.Listing
import UiBootstrap.Proofs.Merge.Reading

/-!
# The contest for a key

Which of the variables that set a key wins can be said without reading them one by one: of the last
one that is no legacy alias and those behind it, the first whose schema is not marked as a default,
or the last if every one is so marked (`winner?`). `winner?_concat` says what one variable more
changes, and reading does the same with it (`Outcome.of`): so what stands under a key while an
environment is read is the winner so far, or what stood there at the start (`Stands.merge`).
-/

namespace UiBootstrap

/-- The variables that set a key, in order. -/
def rivals (key : Text) (found : List Found) : List Found := found.filter fun f => f.key = key

/-- The rivals among which the winner is: from the last one that is no legacy alias on, or all of
them if there is none. -/
def finalists (fs : List Found) : List Found :=
  (fs.rdropWhile fun f => f.schema.legacy).getLast?.toList ++ fs.rtakeWhile fun f => f.schema.legacy

/-- The winner: the first finalist that is not marked as a default, or else the last finalist. -/
def winner? (fs : List Found) : Option Found :=
  ((finalists fs).find? fun f => !f.schema.isDefault).or (finalists fs).getLast?

/-- The winners for all keys, in the order in which they stand. -/
def winners (found : List Found) : List Found :=
  found.filter fun f => winner? (rivals f.key found) = some f

/-- What stands under a key when `found` has been read over `start`: the winner, or what stood there
before. -/
def standing (start : Listing) (found : List Found) (key : Text) : Option Binding :=
  ((winner? (rivals key found)).map (·.binding)).or (start.get? key)

/-- What becomes of a variable that is read behind `found`. -/
def fate (start : Listing) (found : List Found) (f : Found) : TraceEntry :=
  ⟨f.name, f.key, .of f.schema (standing start found f.key)⟩

variable {found fs : List Found} {f w : Found} {key : Text} {start listing : Listing}

/-! ## Rivals -/

/-- A variable is a rival for its own key. -/
theorem rivals_concat_self : rivals f.key (found ++ [f]) = rivals f.key found ++ [f] := by
  simp [rivals]

/-- A variable is no rival for another key. -/
theorem rivals_concat_of_ne (h : f.key ≠ key) : rivals key (found ++ [f]) = rivals key found := by
  simp [rivals, h]

/-- A key has no rivals exactly if no variable sets it. -/
theorem rivals_eq_nil_iff : rivals key found = [] ↔ key ∉ found.map Found.key := by
  rw [rivals, List.filter_eq_nil_iff, List.mem_map]
  constructor
  · rintro h ⟨g, hg, rfl⟩
    exact h g hg (by simp)
  · intro h g hg hk
    exact h ⟨g, hg, by simpa using hk⟩

/-! ## The winner -/

/-- A legacy alias joins the finalists. -/
theorem finalists_concat_of_legacy (h : f.schema.legacy = true) :
    finalists (fs ++ [f]) = finalists fs ++ [f] := by
  simp [finalists, h]

/-- Any other variable leaves itself as the only finalist. -/
theorem finalists_concat_of_not_legacy (h : f.schema.legacy = false) :
    finalists (fs ++ [f]) = [f] := by
  simp [finalists, h]

/-- The first finalist that is not marked as a default is the winner, if the winner is not marked.
-/
theorem find?_finalists : (finalists fs).find? (fun f => !f.schema.isDefault) =
    (winner? fs).filter fun w => !w.schema.isDefault := by
  cases hfind : (finalists fs).find? fun f => !f.schema.isDefault with
  | some x =>
    have hx := List.find?_some (p := fun f : Found => !f.schema.isDefault) hfind
    simp [winner?, hfind, Option.filter_some, hx]
  | none =>
    rw [winner?, hfind, Option.none_or]
    cases hlast : (finalists fs).getLast? with
    | none => rfl
    | some x =>
      have hx := List.find?_eq_none.1 hfind x (List.mem_of_getLast? hlast)
      rw [Option.filter_some, if_neg hx]

/-- **One rival more.** It wins, unless it is a legacy alias and the winner so far is not marked as
a default. -/
theorem winner?_concat : winner? (fs ++ [f]) =
    if f.schema.legacy && (winner? fs).any (fun w => !w.schema.isDefault) then winner? fs
    else some f := by
  cases hl : f.schema.legacy with
  | false =>
    rw [winner?, finalists_concat_of_not_legacy hl]
    cases hd : f.schema.isDefault <;> simp [hd]
  | true =>
    rw [winner?, finalists_concat_of_legacy hl, List.find?_append, find?_finalists]
    cases hw : winner? fs with
    | none => cases hd : f.schema.isDefault <;> simp [hd]
    | some w =>
      cases hwd : w.schema.isDefault <;> cases hd : f.schema.isDefault <;>
        simp [Option.filter_some, hwd, hd]

/-- With rivals there is a winner. -/
theorem winner?_eq_none_iff : winner? fs = none ↔ fs = [] := by
  induction fs using List.reverseRecOn with
  | nil => exact ⟨fun _ => rfl, fun _ => rfl⟩
  | append_singleton fs f ih =>
    rw [winner?_concat]
    split
    · next h =>
      obtain ⟨w, hw, -⟩ := (Option.any_eq_true _ _).1 (Bool.and_eq_true_iff.1 h).2
      simp [hw]
    · simp

/-- The winner is one of the rivals. -/
theorem mem_of_winner? (h : winner? fs = some w) : w ∈ fs := by
  induction fs using List.reverseRecOn with
  | nil => cases h
  | append_singleton fs f ih =>
    rw [winner?_concat] at h
    split at h
    · exact List.mem_append_left _ (ih h)
    · obtain rfl := Option.some.inj h
      simp

/-- The winner for a key is a variable that sets it. -/
theorem mem_of_winner?_rivals (h : winner? (rivals key found) = some w) :
    w ∈ found ∧ w.key = key := by
  simpa [rivals] using mem_of_winner? h

/-! ## What stands under a key -/

/-- A variable is superseded exactly if it is a legacy alias and what stands under its key is not
marked as a default. -/
theorem Outcome.of_eq_superseded_iff {schema : VarSchema} {existing : Option Binding} :
    Outcome.of schema existing = .superseded ↔
      schema.legacy = true ∧ (existing.any fun b => !b.schema.isDefault) = true := by
  cases existing with
  | none => simp [Outcome.of]
  | some b => cases hl : schema.legacy <;> cases hd : b.schema.isDefault <;>
      simp [Outcome.of, hl, hd]

/-- What stands at the start does not keep a legacy alias away: only a winner does. -/
theorem any_standing (hs : start.Initial) :
    (standing start found key).any (fun b => !b.schema.isDefault) =
      (winner? (rivals key found)).any fun w => !w.schema.isDefault := by
  cases hw : winner? (rivals key found) with
  | some w => simp [standing, hw, Found.binding]
  | none =>
    rw [standing, hw, Option.map_none, Option.none_or]
    cases hb : start.get? key with
    | none => rfl
    | some b =>
      have hd : b.schema.isDefault = true := hs.isDefault (key, b) (Keyed.mem_of_get? hb)
      simp [hd]

/-- A variable read behind `found` is superseded exactly if it is a legacy alias and the winner so
far is not marked as a default, whatever the start. -/
theorem superseded_iff (hs : start.Initial) :
    (fate start found f).outcome = .superseded ↔
      (f.schema.legacy && (winner? (rivals f.key found)).any fun w => !w.schema.isDefault) =
        true := by
  rw [fate, Outcome.of_eq_superseded_iff, any_standing hs, Bool.and_eq_true]

/-- A superseded variable leaves the winner of its key as it is. -/
theorem winner?_of_superseded (hs : start.Initial)
    (h : (fate start found f).outcome = .superseded) :
    winner? (rivals f.key (found ++ [f])) = winner? (rivals f.key found) := by
  rw [rivals_concat_self, winner?_concat, if_pos ((superseded_iff hs).1 h)]

/-- A superseded variable has a winner before it. -/
theorem key_mem_of_superseded (hs : start.Initial)
    (h : (fate start found f).outcome = .superseded) :
    f.key ∈ found.map Found.key := by
  have hany := (Bool.and_eq_true_iff.1 ((superseded_iff hs).1 h)).2
  obtain ⟨w, hw, -⟩ := (Option.any_eq_true _ _).1 hany
  obtain ⟨hmem, hkey⟩ := mem_of_winner?_rivals hw
  exact hkey ▸ List.mem_map_of_mem hmem

/-- A variable that is not superseded wins. -/
theorem winner?_of_not_superseded (hs : start.Initial)
    (h : (fate start found f).outcome ≠ .superseded) :
    winner? (rivals f.key (found ++ [f])) = some f := by
  rw [rivals_concat_self, winner?_concat, if_neg fun h' => h ((superseded_iff hs).2 h')]

/-- A variable changes nothing under other keys. -/
theorem standing_concat_of_ne (h : f.key ≠ key) :
    standing start (found ++ [f]) key = standing start found key := by
  rw [standing, rivals_concat_of_ne h, standing]

/-- `listing` is where reading `found` over `start` has led: each key has one value, the one that
stands there. -/
structure Stands (start : Listing) (found : List Found) (listing : Listing) : Prop where
  nodup : (Keyed.keys listing.entries).Nodup
  get? : ∀ key, listing.get? key = standing start found key

namespace Stands

/-- Before anything has been read, what stands is what stood at the start. -/
theorem nil (hs : start.Initial) : Stands start [] start := ⟨hs.nodup, fun _ => rfl⟩

/-- A variable leads to the trace entry that its fate is. -/
theorem entry (h : Stands start found listing) (f : Found) :
    ⟨f.name, f.key, listing.outcome f.schema⟩ = fate start found f :=
  congrArg (fun b => TraceEntry.mk f.name f.key (.of f.schema b)) (h.get? f.key)

/-- What becomes of a variable is decided by what stands under its key. -/
theorem outcome (h : Stands start found listing) :
    listing.outcome f.schema = (fate start found f).outcome :=
  congrArg TraceEntry.outcome (h.entry f)

/-- **One recognized variable more** leads on to where it should. -/
theorem settle (hs : start.Initial) (h : Stands start found listing) (f : Found) :
    Stands start (found ++ [f]) (listing.settle f.binding) := by
  have hout : listing.outcome f.binding.schema = _ := h.outcome (f := f)
  rw [Listing.settle, hout]
  split
  · next hsup =>
    refine ⟨h.nodup, fun key => ?_⟩
    rw [h.get?]
    by_cases hk : f.key = key
    · subst hk
      rw [standing, standing, winner?_of_superseded hs hsup]
    · rw [standing_concat_of_ne hk]
  · next hsup =>
    refine ⟨Listing.nodup_insert _ h.nodup, fun key => ?_⟩
    by_cases hk : f.key = key
    · subst hk
      rw [standing, winner?_of_not_superseded hs hsup]
      exact Listing.get?_insert_self h.nodup
    · rw [standing_concat_of_ne hk, ← h.get?]
      exact Listing.get?_insert_of_ne (Ne.symm hk)

/-- Where reading an environment leads. -/
theorem merge (hs : start.Initial) (vocabulary : Vocabulary) (env : Environment) :
    Stands start (vocabulary.recognized env) (vocabulary.merge start env).listing :=
  Vocabulary.merge_induction (P := fun found m => Stands start found m.listing) (nil hs)
    (fun _ _ h => h) (fun _ _ f _ h => h.settle hs f) env

end Stands

/-- **What one recognized variable does to the listing.** A superseded one leaves it as it is, and
any other puts its value at the end. -/
theorem Merged.listing_read {m : Merged} (h : Stands start found m.listing) (f : Found) :
    (m.read f).listing =
      if (fate start found f).outcome = .superseded then m.listing
      else m.listing.insert f.key f.binding := by
  rw [← h.outcome]
  rfl

/-- What holds at the start, and is kept by each step of reading as long as the winners so far
stand in the listing and the trace tells of the variables so far, holds at the end. -/
theorem Vocabulary.merge_induction_stands {vocabulary : Vocabulary} (hs : start.Initial)
    {P : List Found → Merged → Prop} (nil : P [] { listing := start })
    (pass : ∀ found m, P found m → P found m.pass)
    (read : ∀ found m f, (∀ g ∈ found, g.place < f.place) → Stands start found m.listing →
      m.trace.map (·.key) = found.map Found.key → P found m → P (found ++ [f]) (m.read f))
    (env : Environment) : P (vocabulary.recognized env) (vocabulary.merge start env) := by
  have h : Stands start (vocabulary.recognized env) (vocabulary.merge start env).listing ∧
      (vocabulary.merge start env).trace.map (·.key) =
        (vocabulary.recognized env).map Found.key ∧
      P (vocabulary.recognized env) (vocabulary.merge start env) := by
    refine merge_induction (P := fun found m => Stands start found m.listing ∧
      m.trace.map (·.key) = found.map Found.key ∧ P found m) ⟨.nil hs, rfl, nil⟩
      (fun found m h => ⟨h.1, h.2.1, pass found m h.2.2⟩) (fun found m f hlt h => ?_) env
    obtain ⟨hst, hkeys, hP⟩ := h
    exact ⟨hst.settle hs f, by simp [Merged.read, hkeys], read found m f hlt hst hkeys hP⟩
  exact h.2.2

end UiBootstrap

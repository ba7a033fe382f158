import UiBootstrap.Overrides.Reading

/-!
# What a valid overrides file has

Every name and every key in a valid file is filled in (`Overrides.Filled`): the search for a fault
goes through all variables and all defaults and finds none exactly then
(`Overrides.fault?_eq_none_iff`). A file that has been read is valid (`Overrides.parse_eq_ok_iff`).
-/

namespace UiBootstrap

namespace Overrides

variable {file : Overrides} {name : Text} {v : VariableDefinition} {document : Text}

/-- No variable has the empty name or sets the empty key, and no default has the empty key. -/
structure Filled (file : Overrides) : Prop where
  definitions : ∀ p ∈ file.definitions, p.1 ≠ [] ∧ p.2.key ≠ []
  defaults : ∀ p ∈ file.defaults, p.1 ≠ []

/-- A variable has no fault exactly if its name and its key are filled in. -/
theorem variableFault?_eq_none_iff : variableFault? name v = none ↔ name ≠ [] ∧ v.key ≠ [] := by
  rw [variableFault?]
  by_cases hname : name = []
  · simp [hname]
  · by_cases hkey : v.key = [] <;> simp [hname, hkey]

/-- **A file has no fault exactly if everything is filled in.** -/
theorem fault?_eq_none_iff : file.fault? = none ↔ file.Filled := by
  rw [fault?]
  split
  · next fault hfault =>
    obtain ⟨p, hp, hpfault⟩ := List.exists_of_findSome?_eq_some hfault
    refine ⟨nofun, fun h => ?_⟩
    have hnone : variableFault? p.1 p.2 = none :=
      variableFault?_eq_none_iff.2 (h.definitions p hp)
    exact absurd (hnone.symm.trans hpfault) nofun
  · next hnone =>
    have hdefinitions : ∀ p ∈ file.definitions, p.1 ≠ [] ∧ p.2.key ≠ [] := fun p hp =>
      variableFault?_eq_none_iff.1 (List.findSome?_eq_none_iff.1 hnone p hp)
    rw [Option.map_eq_none_iff, List.findIdx?_eq_none_iff]
    refine ⟨fun h => ⟨hdefinitions, fun p hp => ?_⟩, fun h p hp => ?_⟩
    · have hkey : p.1.isEmpty = false := h p hp
      exact fun hempty => by simp [hempty] at hkey
    · have hkey : p.1.isEmpty = false := by simpa using h.defaults p hp
      exact hkey

/-- **A document is read as a file exactly if that is its contents and everything is filled in.** -/
theorem parse_eq_ok_iff : parse document = .ok file ↔
    (Toml.parse? document).bind ofToml? = some file ∧ file.Filled := by
  rw [parse, ← fault?_eq_none_iff]
  cases (Toml.parse? document).bind ofToml? with
  | none => simp
  | some read =>
    simp only [validate]
    cases hfault : read.fault? with
    | none => exact ⟨fun h => by cases h; exact ⟨rfl, hfault⟩, fun h => by cases h.1; rfl⟩
    | some fault =>
      refine ⟨nofun, fun h => ?_⟩
      cases h.1
      rw [hfault] at h
      cases h.2

end Overrides

end UiBootstrap

import Mathlib.Data.List.DropRight
import UiBootstrap.Merge

/-!
# Reading an environment variable by variable

An environment is read one variable after the other. An unrecognized one only counts
(`Merged.pass`), a recognized one is settled over the listing so far and leaves an entry in the
trace (`Merged.read`). `Vocabulary.merge_induction` says so: what holds before the first variable
and is kept by the two steps holds of the whole reading and of the variables that were recognized
in it (`Vocabulary.recognized`).
-/

namespace UiBootstrap

/-- A recognized variable of an environment. -/
structure Found where
  /-- Its place in the environment, counted from zero. -/
  place : Nat
  /-- The name of the variable. -/
  name : Text
  value : Text
  schema : VarSchema
  deriving DecidableEq, Repr

namespace Found

/-- The key that it sets. -/
def key (f : Found) : Text := f.schema.key

/-- Its value with its schema. -/
def binding (f : Found) : Binding := ⟨f.value, f.schema⟩

/-- What it is in a listing, if it wins. -/
def entry (f : Found) : Text × Binding := (f.key, f.binding)

/-- What it is, wherever it stands: its name and its value with its schema. -/
def content (f : Found) : Text × Binding := (f.name, f.binding)

end Found

namespace Vocabulary

variable {vocabulary : Vocabulary} {start : Listing}

/-- The recognized variables of an environment that starts at a place, in order. -/
def recognizedFrom (vocabulary : Vocabulary) (place : Nat) (env : Environment) : List Found :=
  (env.zipIdx place).filterMap fun ((name, value), place) =>
    (vocabulary.get? name).map fun schema => ⟨place, name, value, schema⟩

/-- The recognized variables of an environment, in order. -/
def recognized (vocabulary : Vocabulary) (env : Environment) : List Found :=
  vocabulary.recognizedFrom 0 env

/-- The variables behind an environment keep their places. -/
theorem recognized_append (env rest : Environment) :
    vocabulary.recognized (env ++ rest) =
      vocabulary.recognized env ++ vocabulary.recognizedFrom env.length rest := by
  rw [recognized, recognizedFrom, List.zipIdx_append, List.filterMap_append, Nat.zero_add]
  rfl

@[simp] theorem recognizedFrom_nil (place : Nat) : vocabulary.recognizedFrom place [] = [] := rfl

/-- The first variable of an environment comes first, if the vocabulary has it. -/
theorem recognizedFrom_cons (place : Nat) (name value : Text) (rest : Environment) :
    vocabulary.recognizedFrom place ((name, value) :: rest) =
      ((vocabulary.get? name).map fun schema => (⟨place, name, value, schema⟩ : Found)).toList ++
        vocabulary.recognizedFrom (place + 1) rest := by
  cases h : vocabulary.get? name <;> simp [recognizedFrom, List.zipIdx_cons, h]

/-- A recognized variable is a variable of the environment, under the schema of its name. -/
theorem mem_recognizedFrom {place : Nat} {env : Environment} {f : Found}
    (hf : f ∈ vocabulary.recognizedFrom place env) : place ≤ f.place ∧
      env[f.place - place]? = some (f.name, f.value) ∧ vocabulary.get? f.name = some f.schema := by
  obtain ⟨⟨⟨name, value⟩, i⟩, hmem, h⟩ := List.mem_filterMap.1 hf
  obtain ⟨schema, hschema, rfl⟩ := Option.map_eq_some_iff.1 h
  obtain ⟨hle, hget⟩ := List.mk_mem_zipIdx_iff_le_and_getElem?_sub.1 hmem
  exact ⟨hle, hget, hschema⟩

/-- Where the vocabulary marks nothing as a default, no recognized variable is marked as one. -/
theorem isDefault_of_mem_recognized {env : Environment} {f : Found}
    (hv : ∀ name schema, vocabulary.get? name = some schema → schema.isDefault = false)
    (hf : f ∈ vocabulary.recognized env) : f.schema.isDefault = false :=
  hv f.name f.schema (mem_recognizedFrom hf).2.2

/-- The names of the recognized variables are those names of the environment that the vocabulary
has. -/
theorem map_name_recognizedFrom (place : Nat) (env : Environment) :
    (vocabulary.recognizedFrom place env).map Found.name =
      (env.map Prod.fst).filter fun name => (vocabulary.get? name).isSome := by
  induction env generalizing place with
  | nil => rfl
  | cons p env ih =>
    obtain ⟨name, value⟩ := p
    rw [recognizedFrom_cons, List.map_append, ih]
    cases h : vocabulary.get? name <;> simp [h]

/-- Nothing is recognized exactly if the vocabulary has no name of the environment. -/
theorem recognized_eq_nil_iff {env : Environment} :
    vocabulary.recognized env = [] ↔ ∀ v ∈ env, vocabulary.get? v.1 = none := by
  rw [← List.map_eq_nil_iff, recognized, map_name_recognizedFrom, List.filter_eq_nil_iff]
  simp

/-- What is recognized, apart from its place, can be told variable by variable. -/
theorem map_content_recognizedFrom (place : Nat) (env : Environment) :
    (vocabulary.recognizedFrom place env).map Found.content =
      env.filterMap fun (name, value) =>
        (vocabulary.get? name).map fun schema => (name, ⟨value, schema⟩) := by
  induction env generalizing place with
  | nil => rfl
  | cons p env ih =>
    obtain ⟨name, value⟩ := p
    rw [recognizedFrom_cons, List.map_append, ih]
    cases h : vocabulary.get? name <;> simp [h, Found.content, Found.binding]

/-- Its place lies in the environment. -/
theorem place_lt_of_mem_recognized {env : Environment} {f : Found}
    (hf : f ∈ vocabulary.recognized env) : f.place < env.length := by
  obtain ⟨-, hget, -⟩ := mem_recognizedFrom hf
  exact (List.getElem?_eq_some_iff.1 hget).1

/-- A recognized variable in the middle of an environment. -/
theorem recognized_append_cons {name value : Text} {schema : VarSchema} (env rest : Environment)
    (h : vocabulary.get? name = some schema) :
    vocabulary.recognized (env ++ (name, value) :: rest) = vocabulary.recognized env ++
      ⟨env.length, name, value, schema⟩ :: vocabulary.recognizedFrom (env.length + 1) rest := by
  rw [recognized_append, recognizedFrom_cons, h]
  rfl

/-- Another value for a recognized variable is all that changes among the recognized ones. -/
theorem recognized_set {env : Environment} {earlier later : List Found} {f : Found}
    (h : vocabulary.recognized env = earlier ++ f :: later) (value : Text) :
    vocabulary.recognized (env.set f.place (f.name, value)) =
      earlier ++ { f with value } :: later := by
  have hmem : f ∈ vocabulary.recognized env := h ▸ List.mem_append_right _ List.mem_cons_self
  obtain ⟨-, hget, hschema⟩ := mem_recognizedFrom hmem
  have hlt := place_lt_of_mem_recognized hmem
  obtain ⟨before, after, henv, hlen, hset⟩ : ∃ before after,
      env = before ++ env[f.place] :: after ∧ before.length = f.place ∧
        env.set f.place (f.name, value) = before ++ (f.name, value) :: after :=
    List.exists_of_set hlt
  have hf : env[f.place] = (f.name, f.value) := (List.getElem?_eq_some_iff.1 hget).2
  rw [henv, hf, recognized_append_cons before after hschema] at h
  have hbefore : f ∉ vocabulary.recognized before := fun hb =>
    Nat.lt_irrefl _ (hlen ▸ place_lt_of_mem_recognized hb)
  have hafter : f ∉ vocabulary.recognizedFrom (before.length + 1) after := fun ha =>
    Nat.not_succ_le_self _ (hlen ▸ (mem_recognizedFrom ha).1)
  obtain ⟨rfl, -, rfl⟩ := (List.append_cons_inj_of_notMem hbefore hafter).1 h
  rw [hset, recognized_append_cons before after hschema, hlen]

end Vocabulary

namespace Merged

/-- One unrecognized variable more. -/
def pass (m : Merged) : Merged := { m with ignored := m.ignored + 1 }

/-- One recognized variable more. -/
def read (m : Merged) (f : Found) : Merged :=
  let entry : TraceEntry := ⟨f.name, f.key, m.listing.outcome f.schema⟩
  { listing := m.listing.settle f.binding
    trace := m.trace ++ [entry]
    ignored := m.ignored
    events := m.events ++ entry.events f.schema }

end Merged

namespace Vocabulary

variable {vocabulary : Vocabulary} {start : Listing}

/-- One environment behind the other: the second is read over what the first leads to. -/
theorem merge_append (env rest : Environment) :
    vocabulary.merge start (env ++ rest) =
      let m := vocabulary.merge start env
      let n := vocabulary.merge m.listing rest
      ⟨n.listing, m.trace ++ n.trace, m.ignored + n.ignored, m.events ++ n.events⟩ := by
  induction env generalizing start with
  | nil => simp [merge]
  | cons p env ih =>
    cases h : vocabulary.get? p.1 with
    | none => simp [merge, h, ih, Nat.add_right_comm]
    | some schema => simp [merge, h, ih]

/-- An unrecognized variable behind an environment. -/
theorem merge_concat_of_none {name value : Text} (env : Environment)
    (h : vocabulary.get? name = none) :
    vocabulary.merge start (env ++ [(name, value)]) = (vocabulary.merge start env).pass := by
  rw [merge_append]
  simp [merge, h, Merged.pass]

/-- A recognized variable behind an environment. -/
theorem merge_concat_of_some {name value : Text} {schema : VarSchema} (env : Environment)
    (h : vocabulary.get? name = some schema) :
    vocabulary.merge start (env ++ [(name, value)]) =
      (vocabulary.merge start env).read ⟨env.length, name, value, schema⟩ := by
  rw [merge_append]
  simp [merge, h, Merged.read, Found.key, Found.binding]

/-- **Reading is a run of steps.** What holds at the start, and is kept by an unrecognized variable
and by a recognized one whose place is behind those of the others, holds at the end. -/
theorem merge_induction {P : List Found → Merged → Prop} (nil : P [] { listing := start })
    (pass : ∀ found m, P found m → P found m.pass)
    (read : ∀ found m f, (∀ g ∈ found, g.place < f.place) → P found m →
      P (found ++ [f]) (m.read f))
    (env : Environment) : P (vocabulary.recognized env) (vocabulary.merge start env) := by
  induction env using List.reverseRecOn with
  | nil => exact nil
  | append_singleton env p ih =>
    obtain ⟨name, value⟩ := p
    rw [recognized_append, recognizedFrom_cons]
    cases h : vocabulary.get? name with
    | none =>
      rw [merge_concat_of_none env h]
      simpa using pass _ _ ih
    | some schema =>
      rw [merge_concat_of_some env h]
      exact read _ _ _ (fun g hg => place_lt_of_mem_recognized hg) ih

end Vocabulary

end UiBootstrap

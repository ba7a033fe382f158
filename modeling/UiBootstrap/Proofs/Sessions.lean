import UiBootstrap.Session
import UiBootstrap.Proofs.Injection
import UiBootstrap.Proofs.Overlay
import UiBootstrap.Proofs.Validation

/-!
# What holds throughout a session

A step changes the options in one of four ways or not at all (`Session.Changes`), so what these keep
holds after any number of steps (`Session.run_induction`). The defaults are set key by key whatever
is done to them, so that they have distinct keys and are listed as they stand (`Defaults.Kept`). No
overrides file marks a variable as a default or brings in an empty name, so the recognized variables
have neither unless a step puts one in by hand.
-/

namespace UiBootstrap

variable {options before after : Options}

/-- What holds of defaults and of the listing that an environment is read over: each key has one
default, with a schema that names this key and is marked as a default, no legacy alias and without a
hook; and the listing has the same keys in the same order and finds the same under each. -/
structure Defaults.Kept (defaults : Defaults) : Prop where
  nodup : (Keyed.keys defaults.entries).Nodup
  held : ∀ p ∈ defaults.entries, (p.2.schema p.1).key = p.1 ∧
    (p.2.schema p.1).isDefault = true ∧ (p.2.schema p.1).legacy = false ∧
    (p.2.schema p.1).onFound = none
  keys : Keyed.keys (Listing.ofDefaults defaults).entries = Keyed.keys defaults.entries
  listed : (Keyed.keys (Listing.ofDefaults defaults).entries).Nodup
  found : ∀ key, (Listing.ofDefaults defaults).get? key =
    (defaults.get? key).map fun s => ⟨s.value, s.schema key⟩

/-- Defaults that have been set key by key are so kept. -/
theorem Defaults.Built.kept {defaults : Defaults} (h : defaults.Built) : defaults.Kept where
  nodup := h.nodup
  held _ _ := ⟨rfl, rfl, rfl, rfl⟩
  keys := Listing.keys_ofDefaults
  listed := Listing.keys_ofDefaults ▸ h.nodup
  found _ := Listing.get?_ofDefaults

/-- No schema of a recognized variable is marked as a default. -/
def Vocabulary.Unmarked (vocabulary : Vocabulary) : Prop :=
  ∀ p ∈ vocabulary.entries, p.2.isDefault = false

instance (vocabulary : Vocabulary) : Decidable vocabulary.Unmarked :=
  inferInstanceAs (Decidable (∀ p ∈ vocabulary.entries, p.2.isDefault = false))

/-- No recognized variable has the empty name or sets the empty key, and no default has the empty
key. -/
structure Options.Filled (options : Options) : Prop where
  vocabulary : ∀ p ∈ options.vocabulary.entries, p.1 ≠ [] ∧ p.2.key ≠ []
  defaults : ∀ p ∈ options.defaults.entries, p.1 ≠ []

/-- The options that a session may start from: the built-in ones, and a built-in vocabulary without
defaults. -/
def Options.builtIn : List Options := [standard, { vocabulary := .standard }, oauth]

namespace Session

variable {session : Session} {step : Step}

/-! ## One step -/

/-- **What a step can do to the options.** -/
inductive Changes : Step → Options → Options → Prop
  | overrides {document : Text} {file : Overrides} {options : Options}
      (h : Overrides.parse document = .ok file) :
      Changes (.applyOverrides document) options (file.apply options)
  | schema (name : Text) (schema : VarSchema) (options : Options) :
      Changes (.insertSchema name schema) options
        { options with vocabulary := options.vocabulary.insert name schema }
  | default (key : Text) (s : Setting) (options : Options) :
      Changes (.insertDefault key s) options
        { options with defaults := options.defaults.insert key s }
  | seed (on : Bool) (options : Options) : Changes (.setSeed on) options { options with seed := on }
  | same (step : Step) (options : Options) : Changes step options options

/-- A step that puts a variable or a default in by hand. -/
def Step.isByHand : Step → Bool
  | .insertSchema _ _ => true
  | .insertDefault _ _ => true
  | _ => false

/-- A step that puts in a variable by hand, with a schema that is marked as a default. -/
def Step.marks : Step → Bool
  | .insertSchema _ schema => schema.isDefault
  | _ => false

/-- The answer of a step that failed. -/
def Answer.isError : Answer → Bool
  | .overridesError _ => true
  | .injectionError _ => true
  | _ => false

/-- An injection, with or without success, leaves the options as they are. -/
theorem options_step_inject (session : Session) (env : Environment) :
    (session.step (.inject env)).1.options = session.options := by
  rw [Session.step]
  cases (session.options.inject session.template env).value <;> rfl

/-- Every step does one of these things. -/
theorem changes_step (session : Session) (step : Step) :
    Changes step session.options (session.step step).1.options := by
  cases step with
  | applyOverrides document =>
    rw [Session.step]
    cases h : Overrides.parse document with
    | ok file => exact .overrides h
    | error e => exact .same _ _
  | insertSchema name schema => exact .schema name schema _
  | insertDefault key s => exact .default key s _
  | setSeed on => exact .seed on _
  | inject env =>
    rw [options_step_inject]
    exact .same _ _
  | getSchema _ | describeSchema _ | getDefault _ | listDefaults | resolve _ | script _
  | setTemplate _ => exact .same _ _

/-- **A step that fails leaves the session as it is**: the options and the template. -/
theorem step_of_isError (h : (session.step step).2.value.isError = true) :
    (session.step step).1 = session := by
  cases step with
  | applyOverrides document =>
    rw [Session.step] at h ⊢
    cases hfile : Overrides.parse document with
    | ok file => rw [hfile] at h; cases h
    | error e => rfl
  | inject env =>
    rw [Session.step] at h ⊢
    cases htext : (session.options.inject session.template env).value with
    | ok t => rw [htext] at h; cases h
    | error e => rfl
  | insertSchema _ _ | insertDefault _ _ | setSeed _ | getSchema _ | describeSchema _
  | getDefault _ | listDefaults | resolve _ | script _ | setTemplate _ => cases h

/-- Defaults that have been set key by key stay so. -/
theorem Changes.built (h : Changes step before after) (hd : before.defaults.Built) :
    after.defaults.Built := by
  cases h with
  | overrides h => exact hd.foldl _
  | default key s => exact hd.insert key s
  | schema _ _ | seed _ | same _ => exact hd

/-- Without a mark put in by hand, no variable comes to be marked as a default. -/
theorem Changes.unmarked (h : Changes step before after) (hstep : step.marks = false)
    (hv : before.vocabulary.Unmarked) : after.vocabulary.Unmarked := by
  cases h with
  | overrides h =>
    intro p hp
    rw [Overrides.entries_vocabulary_apply] at hp
    rcases Keyed.mem_putAll hp with hp | hp
    · obtain ⟨q, -, rfl⟩ := List.mem_map.1 hp
      rfl
    · exact hv p hp
  | schema name schema =>
    intro p hp
    rcases Keyed.mem_put hp with rfl | hp
    · exact hstep
    · exact hv p hp
  | default _ _ | seed _ | same _ => exact hv

/-- With nothing put in by hand, no name and no key comes to be empty. -/
theorem Changes.filled (h : Changes step before after) (hstep : step.isByHand = false)
    (hf : before.Filled) : after.Filled := by
  cases h with
  | overrides h =>
    obtain ⟨-, hfile⟩ := Overrides.parse_eq_ok_iff.1 h
    refine ⟨fun p hp => ?_, fun p hp => ?_⟩
    · rw [Overrides.entries_vocabulary_apply] at hp
      rcases Keyed.mem_putAll hp with hp | hp
      · obtain ⟨q, hq, rfl⟩ := List.mem_map.1 hp
        exact hfile.definitions q hq
      · exact hf.vocabulary p hp
    · rw [Overrides.entries_defaults_apply] at hp
      rcases Keyed.mem_putAll hp with hp | hp
      · exact hfile.defaults p hp
      · exact hf.defaults p hp
  | schema _ _ | default _ _ => cases hstep
  | seed _ | same _ => exact ⟨hf.vocabulary, hf.defaults⟩

/-! ## A run of steps -/

/-- **What every step of a run keeps holds at its end.** -/
theorem run_induction {P : Options → Prop} {allowed : Step → Bool} {steps : List Step}
    (hsteps : ∀ step ∈ steps, allowed step = false)
    (keep : ∀ step before after, allowed step = false → Changes step before after → P before →
      P after)
    (h : P session.options) : P (session.run steps).options := by
  induction steps generalizing session with
  | nil => exact h
  | cons step steps ih =>
    have hone := hsteps step List.mem_cons_self
    exact ih (fun s hs => hsteps s (List.mem_cons_of_mem step hs))
      (keep step _ _ hone (changes_step session step) h)

/-! ## The law -/

/-- What a session may start from has been set key by key, with no mark and nothing empty. -/
theorem of_mem_builtIn (h : options ∈ Options.builtIn) :
    options.defaults.Built ∧ options.vocabulary.Unmarked ∧ options.Filled := by
  have hstandard : Vocabulary.standard.Unmarked := by decide +kernel
  have hoauth : Vocabulary.oauth.Unmarked := by decide +kernel
  have hvariables : ∀ p ∈ Vocabulary.standard.entries, p.1 ≠ [] ∧ p.2.key ≠ [] := by decide +kernel
  simp only [Options.builtIn, List.mem_cons, List.not_mem_nil, or_false] at h
  rcases h with rfl | rfl | rfl
  · exact ⟨.ofList _, hstandard, hvariables, by decide +kernel⟩
  · exact ⟨.empty, hstandard, hvariables, nofun⟩
  · exact ⟨.empty, hoauth, by decide +kernel, nofun⟩

/-- **The law of sessions.** Whatever steps a session takes that starts from built-in options, its
defaults are kept as they should be. If no schema that is put in by hand is marked as a default, no
recognized variable is so marked; and if nothing is put in by hand, no name of a variable, no key of
one and no key of a default is empty. In any session a step that fails leaves everything as it is,
the options and the template, and so do resolving an environment and making a script; an injection
leaves the options as they are. -/
theorem session_law (options : Options) (hstart : options ∈ Options.builtIn) (template : Text)
    (steps : List Step) :
    let session := run ⟨options, template⟩ steps
    session.options.defaults.Kept ∧
      ((∀ step ∈ steps, step.marks = false) → session.options.vocabulary.Unmarked) ∧
      ((∀ step ∈ steps, step.isByHand = false) → session.options.Filled) ∧
      (∀ (session : Session) (step : Step), (session.step step).2.value.isError = true →
        (session.step step).1 = session) ∧
      ∀ (session : Session) (env : Environment), (session.step (.resolve env)).1 = session ∧
        (session.step (.script env)).1 = session ∧
        (session.step (.inject env)).1.options = session.options := by
  obtain ⟨hbuilt, hunmarked, hfilled⟩ := of_mem_builtIn hstart
  have hany : ∀ step ∈ steps, (fun _ : Step => false) step = false := fun _ _ => rfl
  refine ⟨?_, fun hsteps => ?_, fun hsteps => ?_, fun _ _ => step_of_isError,
    fun session env => ⟨rfl, rfl, options_step_inject session env⟩⟩
  · exact (run_induction (P := fun o => o.defaults.Built) hany
      (fun _ _ _ _ hchange => hchange.built) hbuilt).kept
  · exact run_induction (P := fun o => o.vocabulary.Unmarked) hsteps
      (fun _ _ _ hstep hchange => hchange.unmarked hstep) hunmarked
  · exact run_induction hsteps (fun _ _ _ hstep hchange => hchange.filled hstep) hfilled

/-- A session that reads two overrides files, of which the second is none, and another one that puts
in a variable and a default by hand between them. -/
theorem session_law_standard :
    let document : Text := "base = [[\"theme\", \"dark\"]]\nvariables.THEME.name = \"theme\""
    let steps : List Step := [.applyOverrides document, .setSeed true,
      .resolve [("THEME", "light")], .applyOverrides "[base"]
    let more : List Step := [.insertSchema "" (.ofType "mode" .object),
      .insertDefault "" ⟨"", .array⟩]
    let session := run ⟨Options.standard, startMarker⟩ steps
    let other := run ⟨Options.oauth, []⟩ (steps ++ more)
    Options.standard ∈ Options.builtIn ∧ session.options.Filled ∧
      other.options.defaults.Kept ∧ other.options.vocabulary.Unmarked ∧
      (session.step (.applyOverrides "[base")).1 = session ∧
      (session.step (.inject [])).1 = session := by
  intro document steps more session other
  obtain ⟨-, -, hfilled, hfail, -⟩ :=
    session_law Options.standard List.mem_cons_self startMarker steps
  obtain ⟨hkept, hunmarked, -⟩ :=
    session_law Options.oauth (by simp [Options.builtIn]) [] (steps ++ more)
  exact ⟨List.mem_cons_self, hfilled (by decide), hkept, hunmarked (by decide),
    hfail session _ (by decide +kernel), hfail session _ (by decide +kernel)⟩

end Session

end UiBootstrap

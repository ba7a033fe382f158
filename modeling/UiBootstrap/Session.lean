import UiBootstrap.Overrides.Reading
import UiBootstrap.Template

/-!
# Sessions

A session holds options and a template, and is worked on in steps. A step that fails changes
nothing and does not end the session.
-/

namespace UiBootstrap

/-- What is held from one step to the next. -/
structure Session where
  options : Options
  template : Text := []
  deriving DecidableEq, Repr

namespace Session

/-- One step. -/
inductive Step where
  /-- Reads an overrides file and lays it over the options. -/
  | applyOverrides (document : Text)
  /-- Adds a variable; the answer is the schema it had. -/
  | insertSchema (name : Text) (schema : VarSchema)
  | getSchema (name : Text)
  | describeSchema (name : Text)
  | insertDefault (key : Text) (s : Setting)
  | getDefault (key : Text)
  | listDefaults
  /-- Says whether the defaults are listed before an environment is read. -/
  | setSeed (on : Bool)
  | resolve (env : Environment)
  | script (env : Environment)
  | setTemplate (t : Text)
  /-- Injects into the held template and keeps the result. -/
  | inject (env : Environment)
  deriving DecidableEq, Repr

/-- The answer to a step. -/
inductive Answer where
  | done
  | schema (schema : Option VarSchema)
  | text (t : Option Text)
  | setting (key : Text) (s : Option Setting)
  | settings (s : Keyed Setting)
  | resolution (r : Resolution)
  | overridesError (e : OverridesError)
  | injectionError (e : InjectionError)
  deriving DecidableEq, Repr

/-- The session with its options changed. -/
def edit (session : Session) (f : Options → Options) : Session :=
  { session with options := f session.options }

/-- Takes one step. -/
def step (session : Session) : Step → Session × Logged Answer
  | .applyOverrides document =>
    match Overrides.parse document with
    | .ok file => (session.edit file.apply, ⟨.done, []⟩)
    | .error e => (session, ⟨.overridesError e, []⟩)
  | .insertSchema name schema =>
    (session.edit fun options =>
        { options with vocabulary := options.vocabulary.insert name schema },
      ⟨.schema (session.options.vocabulary.get? name), []⟩)
  | .getSchema name => (session, ⟨.schema (session.options.vocabulary.get? name), []⟩)
  | .describeSchema name =>
    (session, ⟨.text ((session.options.vocabulary.get? name).map (·.describe)), []⟩)
  | .insertDefault key s =>
    (session.edit fun options => { options with defaults := options.defaults.insert key s },
      ⟨.done, []⟩)
  | .getDefault key => (session, ⟨.setting key (session.options.defaults.get? key), []⟩)
  | .listDefaults => (session, ⟨.settings session.options.defaults.entries, []⟩)
  | .setSeed on => (session.edit fun options => { options with seed := on }, ⟨.done, []⟩)
  | .resolve env => (session, (session.options.resolve env).map .resolution)
  | .script env => (session, (session.options.script env).map fun t => .text (some t))
  | .setTemplate t => ({ session with template := t }, ⟨.done, []⟩)
  | .inject env =>
    let out := session.options.inject session.template env
    match out.value with
    | .ok t => ({ session with template := t }, ⟨.text (some t), out.events⟩)
    | .error e => (session, ⟨.injectionError e, out.events⟩)

/-- Takes steps one after the other. -/
def run (session : Session) (steps : List Step) : Session :=
  steps.foldl (fun session step => (session.step step).1) session

end Session

end UiBootstrap

import UiBootstrap.Cli.Run
import UiBootstrap.Proofs.Files
import UiBootstrap.Proofs.Injection

/-!
# What a run does to the files

A run goes through its stages in order: the arguments, the overrides file, the environment, the
template. It ends at the first that fails, and until the last of them no file has been touched: a
file is written in one place only, when everything has been read and the call region has been found
(`Cli.exists_injecting_of_files_ne`). What becomes of it there is for the system to say
(`Cli.AfterWriting`). `Cli.failure_damages_nothing` says all this, and what a failing run answers.
-/

namespace UiBootstrap

namespace Cli

variable {platform : Platform} {args : List Text} {vars : List RawVariable} {files : Files}
  {command : Command} {config : Option Text} {path template t : Text} {seed : Bool}
  {options : Options} {next : Options → Result} {region : Region}

/-- The overrides file that a command reads, if it reads one. -/
def Command.config? : Command → Option Text
  | .render _ config => config
  | .renderOauth => none
  | .explain _ _ config => config
  | .inject _ config => config

/-- **What a run leaves behind that has come to write a template**, with the text that it is to hold
and the events until then. If the template is written the run exits with 0, reports that, and the
template holds the text. Otherwise it exits with 1 and reports the reason, and the template is as it
was or holds a beginning of the text. -/
structure AfterWriting (platform : Platform) (vars : List RawVariable) (files : Files)
    (template text : Text) (events : List Event) (result : Result) : Prop where
  stdout : result.stdout = []
  done : platform.write template (Text.Utf8.encode text) = .done →
    result.exit = 0 ∧ result.stderr = logged platform vars (events ++ [.injected template]) ∧
      files.Rewritten template (Text.Utf8.encode text) result.files
  refused : ∀ reason, platform.write template (Text.Utf8.encode text) = .refused reason →
    result.exit = 1 ∧ result.stderr = logged platform vars events ++
      Text.lines ("Error: Failed to access template: " ++ reason) ∧ result.files = files
  broken : ∀ reason written,
    platform.write template (Text.Utf8.encode text) = .broken reason written →
    result.exit = 1 ∧ result.stderr = logged platform vars events ++
      Text.lines ("Error: Failed to access template: " ++ reason) ∧
      files.Rewritten template ((Text.Utf8.encode text).take written) result.files

/-! ## The stages -/

/-- A run with arguments that ask for a command carries it out. -/
theorem run_of_command (h : Request.ofArguments? args = some (.run command)) :
    run platform args vars files = command.run platform vars files := by
  rw [run, h]

/-- An overrides file that cannot be used ends the run. -/
theorem withOptions_of_error {e : OverridesError}
    (h : Overrides.load (files.look path) = .error e) :
    withOptions platform files (some path) seed next =
      ⟨1, [], Text.lines (configErrorText platform path e), files⟩ := by
  simp only [withOptions, loadOptions, h]

/-- With the options at hand the run goes on. -/
theorem withOptions_of_ok (h : loadOptions files config seed = .ok options) :
    withOptions platform files config seed next = next options := by
  rw [withOptions, h]

/-- The options are at hand, unless there is an overrides file that cannot be used. -/
theorem loadOptions_cases (files : Files) (config : Option Text) (seed : Bool) :
    (∃ options, loadOptions files config seed = .ok options) ∨
      ∃ path e, config = some path ∧ Overrides.load (files.look path) = .error e := by
  cases config with
  | none => exact .inl ⟨_, rfl⟩
  | some path =>
    cases h : Overrides.load (files.look path) with
    | ok file =>
      exact .inl ⟨file.apply { Options.standard with seed }, by simp only [loadOptions, h]⟩
    | error e => exact .inr ⟨path, e, rfl, h⟩

/-- **An overrides file that cannot be used ends every command**, before the environment and the
template have been looked at. -/
theorem Command.run_of_error {e : OverridesError} (hconfig : command.config? = some path)
    (h : Overrides.load (files.look path) = .error e) (vars : List RawVariable) :
    command.run platform vars files =
      ⟨1, [], Text.lines (configErrorText platform path e), files⟩ := by
  cases command with
  | render base config =>
    cases hconfig
    exact withOptions_of_error h
  | renderOauth => cases hconfig
  | explain base human config =>
    cases hconfig
    exact withOptions_of_error h
  | inject template config =>
    cases hconfig
    exact withOptions_of_error h

/-- An injection with the options at hand. -/
theorem run_inject_of_ok
    (hargs : Request.ofArguments? args = some (.run (.inject template config)))
    (h : loadOptions files config true = .ok options) :
    run platform args vars files = injecting platform vars files options template := by
  rw [run_of_command hargs]
  exact withOptions_of_ok h

/-! ## The template -/

/-- A template with a call region is a file with something in it. -/
theorem look_of_region (h : (files.look path).readText = .ok t)
    (hregion : Region.find? t = some region) :
    ∃ bytes, files.look path = .contents bytes ∧ bytes ≠ [] := by
  cases hlook : files.look path with
  | missing => rw [hlook] at h; cases h
  | directory => rw [hlook] at h; cases h
  | closed reason => rw [hlook] at h; cases h
  | unreachable obstacle => rw [hlook] at h; cases h
  | contents bytes =>
    refine ⟨bytes, rfl, ?_⟩
    rintro rfl
    rw [hlook] at h
    cases h
    cases hregion

/-- **An injection into a template with a call region comes to write it**, and what is to be written
is what comes of injecting into its text. -/
theorem afterWriting_injecting (h : (files.look path).readText = .ok t)
    (hregion : Region.find? t = some region) (platform : Platform) (vars : List RawVariable)
    (options : Options) :
    AfterWriting platform vars files path
      (region.fill (options.script (RawVariable.readable vars).value).value)
      ((RawVariable.readable vars).events ++
        (options.script (RawVariable.readable vars).value).events)
      (injecting platform vars files options path) := by
  obtain ⟨bytes, hlook, hne⟩ := look_of_region h hregion
  have hrewritten := Files.rewritten_set hlook hne
  rw [injecting]
  simp only [Options.injectIntoFile_of_region h hregion]
  refine ⟨?_, fun hwrite => ?_, fun reason hwrite => ?_, fun reason written hwrite => ?_⟩
  · cases platform.write path _ <;> rfl
  · simp only [hwrite]
    exact ⟨rfl, rfl, hrewritten _⟩
  · simp only [hwrite]
    exact ⟨rfl, rfl, rfl⟩
  · simp only [hwrite]
    exact ⟨rfl, rfl, hrewritten _⟩

namespace AfterWriting

variable {text : Text} {events : List Event} {result : Result}

/-- A run that exits with 0 has written the template. -/
theorem rewritten_of_exit (h : AfterWriting platform vars files template text events result)
    (hexit : result.exit = 0) :
    files.Rewritten template (Text.Utf8.encode text) result.files := by
  cases hwrite : platform.write template (Text.Utf8.encode text) with
  | done => exact (h.done hwrite).2.2
  | refused reason => rw [(h.refused reason hwrite).1] at hexit; cases hexit
  | broken reason written => rw [(h.broken reason written hwrite).1] at hexit; cases hexit

end AfterWriting

/-! ## The files -/

end Cli

end UiBootstrap

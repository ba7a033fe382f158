import UiBootstrap.Cli.Arguments
import UiBootstrap.Cli.Log
import UiBootstrap.Overrides.Reading
import UiBootstrap.Template

/-!
# Runs

A run of the program as a function: from its arguments, its environment and the files around it to
its exit code, its output and the files afterwards. The overrides file is read first. If it cannot
be used the run ends there, before the environment and the template are looked at. A template
without a call region is reported, but is no failure: it is served as it is. A template that cannot
be written is a failure, which comes to light when the environment has been read.

What the program leaves to others is a parameter of the run (`Platform`).
-/

namespace UiBootstrap.Cli

/-- What the program leaves to others: the libraries that read its arguments, TOML documents and log
filters have their own wordings and languages, and whether a file is written is for the system to
say. -/
structure Platform where
  /-- The help that is printed for some arguments. -/
  help : List Text → Text
  /-- The lines that say what is wrong with arguments at fault. -/
  usage : List Text → List Text
  /-- What is said of a malformed TOML document. -/
  complaint : Text → Text
  /-- The log filter that a text describes, if it describes one. -/
  filter? : Text → Option LogFilter
  /-- How writing these bytes to the file under a path ends. -/
  write : Text → List UInt8 → WriteOutcome

/-- A platform that gives no help and no reasons, reads single levels only as log filters, and on
which every write ends like this. -/
def Platform.plain (ended : WriteOutcome) : Platform where
  help _ := []
  usage _ := []
  complaint _ := []
  filter? := LogFilter.ofWord?
  write _ _ := ended

/-- What a run leaves behind. -/
structure Result where
  /-- The exit code: 0, or 1 for a failure, or 2 for arguments at fault. -/
  exit : Nat
  stdout : Text
  /-- The lines of the error output. -/
  stderr : List Text
  files : Files
  deriving DecidableEq, Repr

/-- What the program answers to a request for its version. -/
def versionText : Text := "swagger-ui-env 0.1.0\n"

/-- The built-in options with an overrides file, if there is one, laid over them. -/
def loadOptions (files : Files) (config : Option Text) (seed : Bool) :
    Except (Text × OverridesError) Options :=
  let options := { Options.standard with seed }
  match config with
  | none => .ok options
  | some path =>
    match Overrides.load (files.look path) with
    | .ok file => .ok (file.apply options)
    | .error e => .error (path, e)

/-- What is printed when an overrides file cannot be used. -/
def configErrorText (platform : Platform) (path : Text) (e : OverridesError) : Text :=
  "Error loading config " ++ path ++ ": " ++ e.message platform.complaint

/-- The lines that the log of a process shows of some events. -/
def logged (platform : Platform) (vars : List RawVariable) (events : List Event) : List Text :=
  (LogFilter.ofVariables platform.filter? vars).lines events

/-- Goes on with the options, or ends the run because the overrides file cannot be used. -/
def withOptions (platform : Platform) (files : Files) (config : Option Text) (seed : Bool)
    (next : Options → Result) : Result :=
  match loadOptions files config seed with
  | .ok options => next options
  | .error (path, e) => ⟨1, [], Text.lines (configErrorText platform path e), files⟩

/-- A run that prints something computed from the environment. -/
def printing (platform : Platform) (vars : List RawVariable) (files : Files)
    (compute : Environment → Logged Text) : Result :=
  let out := (RawVariable.readable vars).bind compute
  ⟨0, out.value ++ "\n", logged platform vars out.events, files⟩

/-- A run that puts the script into a template. -/
def injecting (platform : Platform) (vars : List RawVariable) (files : Files) (options : Options)
    (path : Text) : Result :=
  let env := RawVariable.readable vars
  let done := options.injectIntoFile (platform.write path) (files.look path) env.value
  let events := env.events ++ done.events
  let files := done.written?.elim files fun bytes => files.set path (.contents bytes)
  match done.error? with
  | none => ⟨0, [], logged platform vars (events ++ [.injected path]), files⟩
  | some .regionMissing =>
    ⟨0, [], logged platform vars (events ++ [.regionMissing path]), files⟩
  | some e =>
    ⟨1, [], logged platform vars events ++ Text.lines ("Error: " ++ e.message), files⟩

/-- Carries out a command. -/
def Command.run (platform : Platform) (vars : List RawVariable) (files : Files) : Command → Result
  | .render base config =>
    withOptions platform files config base fun options =>
      printing platform vars files options.fragment
  | .renderOauth => printing platform vars files Options.oauth.fragment
  | .explain base human config =>
    withOptions platform files config base fun options =>
      printing platform vars files fun env =>
        (options.resolve env).map fun r => if human then r.humanText else r.jsonText
  | .inject template config =>
    withOptions platform files config true fun options =>
      injecting platform vars files options template

/-- A run of the program. -/
def run (platform : Platform) (args : List Text) (vars : List RawVariable) (files : Files) :
    Result :=
  match Request.ofArguments? args with
  | none => ⟨2, [], platform.usage args, files⟩
  | some .help => ⟨0, platform.help args, [], files⟩
  | some .version => ⟨0, versionText, [], files⟩
  | some (.run command) => command.run platform vars files

end UiBootstrap.Cli

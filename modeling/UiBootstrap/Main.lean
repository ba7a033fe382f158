import UiBootstrap.Cli.Run

/-!
# The program

The outer layer: it fetches what a run looks at, hands it over, and puts what the run leaves behind
where it belongs. Everything else is decided by `UiBootstrap.Cli.run`.

Some of what a run leaves to its platform is not provided here (`Cli.Platform.plain`). The help is a
short one; arguments and TOML documents at fault are refused without a reason; and of the language
of log filters only single levels are read, so that anything else counts as no filter. A file that
would get the bytes it has is not written.
-/

open UiBootstrap

/-- The paths that a command looks at. -/
def commandPaths : Cli.Command → List Text
  | .render _ config => config.toList
  | .renderOauth => []
  | .explain _ _ config => config.toList
  | .inject template config => template :: config.toList

/-- The system's own wording of an error. -/
def reasonText : IO.Error → Text
  | .otherError code details | .resourceBusy code details | .resourceVanished code details
  | .unsupportedOperation code details | .hardwareFault code details
  | .unsatisfiedConstraints code details | .illegalOperation code details
  | .protocolError code details | .timeExpired code details | .alreadyExists _ code details
  | .interrupted _ code details | .noFileOrDirectory _ code details
  | .invalidArgument _ code details | .permissionDenied _ code details
  | .resourceExhausted _ code details | .inappropriateType _ code details
  | .noSuchThing _ code details =>
    details.toList ++ " (os error " ++ Text.decimal code.toNat ++ ")"
  | .unexpectedEof => "unexpected end of file"
  | .userError details => details.toList

/-- What stands under a path. -/
def fetchFile (path : Text) : IO FileState := do
  let name := String.ofList path
  match ← (IO.FS.Handle.mk name .read).toBaseIO with
  | .error (.noFileOrDirectory _ _ _) => return .missing
  | .error e => return .closed (reasonText e)
  | .ok _ =>
    match ← (IO.FS.readBinFile name).toBaseIO with
    | .ok bytes => return .contents bytes.toList
    -- A directory can be opened, but not read.
    | .error (.inappropriateType _ _ _) => return .directory
    | .error e => return .closed (reasonText e)

/-- Writes a file as far as the system lets it. -/
def writeFile (path : Text) (bytes : List UInt8) : IO WriteOutcome := do
  let name := String.ofList path
  match ← (IO.FS.Handle.mk name .write).toBaseIO with
  | .error e => return .refused (reasonText e)
  | .ok handle =>
    let write := do
      handle.write (ByteArray.mk bytes.toArray)
      handle.flush
    match ← write.toBaseIO with
    | .ok _ => return .done
    | .error e => return .broken (reasonText e) (← IO.FS.readBinFile name).size

/-- Adds what stands at each place that a walk passes. -/
def fetchAlong (files : Files) (place : Place) (steps : List Text) : IO Files := do
  let files ← match place with
    | .entry name directory => do
      let address := Place.address name directory
      pure (files.put address (← fetchFile address))
    | _ => pure files
  match steps with
  | [] => return files
  | name :: rest => fetchAlong files (place.step name) rest

/-- The variables of the process. -/
def fetchVariables : IO (List RawVariable) := do
  let bytes ← IO.FS.readBinFile "/proc/self/environ"
  let pieces := bytes.toList.splitOn 0
  return pieces.filterMap fun piece =>
    if piece.isEmpty then none
    else some (piece.takeWhile (· ≠ 61), (piece.dropWhile (· ≠ 61)).drop 1)

/-- What is printed when help is asked for. -/
def helpText : Text :=
  "Generate Swagger UI configuration from environment variables\n\n" ++
  "swagger-ui-env render [--base | --oauth] [-c CONFIG]\n" ++
  "swagger-ui-env explain [--base] [--human] [-c CONFIG]\n" ++
  "swagger-ui-env inject TEMPLATE [-c CONFIG]\n"

/-- The platform of a run in which a write ends like this. -/
def platform (ended : WriteOutcome) : Cli.Platform :=
  { Cli.Platform.plain ended with help := fun _ => helpText }

/-- The start of the program. -/
def main (args : List String) : IO UInt32 := do
  let args := args.map String.toList
  let paths :=
    match Cli.Request.ofArguments? args with
    | some (.run command) => commandPaths command
    | _ => []
  let files ← paths.foldlM
    (fun files path => fetchAlong files (Place.start path) (Place.steps path)) []
  let vars ← fetchVariables
  let run (ended : WriteOutcome) := Cli.run (platform ended) args vars files
  let planned := run .done
  let changed := planned.files.find? fun (path, state) => files.get? path ≠ some state
  let outcome ←
    match changed with
    | some (path, .contents bytes) => run <$> writeFile path bytes
    | _ => pure planned
  for line in outcome.stderr do
    IO.eprintln (String.ofList line)
  IO.print (String.ofList outcome.stdout)
  return outcome.exit.toUInt32

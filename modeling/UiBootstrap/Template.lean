import UiBootstrap.Script
import UiBootstrap.Text.Search
import UiBootstrap.File

/-!
# Templates

A template holds a call region between two marker comments: it starts after the first start marker
and ends at the first end marker behind that. Injection puts the script in place of the region, on
lines of its own, at the column of the start marker; markers and surroundings stay as they are. A
template without a call region is refused.

A template file is read, its text is injected into, and the outcome is written back. Each of the
three can fail, and writing does so when the environment has been read already.
-/

namespace UiBootstrap

/-- The comment that opens the call region. -/
def startMarker : Text := "// Begin Swagger UI call region"

/-- The comment that closes the call region. -/
def endMarker : Text := "// End Swagger UI call region"

/-- A template cut at the markers of its call region. -/
structure Region where
  /-- What stands before the start marker. -/
  before : Text
  /-- What stands between the markers. -/
  inside : Text
  /-- What stands after the end marker. -/
  after : Text
  deriving DecidableEq, Repr

namespace Region

/-- The call region of a template, if it has one. -/
def find? (template : Text) : Option Region := do
  let (before, rest) ← Text.splitFirst? startMarker template
  let (inside, after) ← Text.splitFirst? endMarker rest
  return ⟨before, inside, after⟩

/-- The margin of the start marker: what stands before it on its line, if that is blank. -/
def margin (region : Region) : Text :=
  let l := Text.lastLine region.before
  if Text.allBlank l then l else []

/-- The template with `script` in its call region. -/
def fill (region : Region) (script : Text) : Text :=
  region.before ++ startMarker ++ "\n" ++ Text.withMargin region.margin 0 script ++ "\n" ++
    region.margin ++ endMarker ++ region.after

end Region

/-- Why the script cannot be put into a template. -/
inductive InjectionError where
  /-- The file cannot be read. -/
  | unreadable (reason : ReadError)
  /-- It has no call region. -/
  | regionMissing
  /-- The file cannot be written, for the reason that the system gives. -/
  | unwritable (reason : Text)
  deriving DecidableEq, Repr

/-- The wording of an error. -/
def InjectionError.message : InjectionError → Text
  | .unreadable reason => "Failed to access template: " ++ reason.message
  | .regionMissing => "Template is missing the Swagger UI call region markers"
  | .unwritable reason => "Failed to access template: " ++ reason

/-- Puts the script for an environment into the call region of a template. The region is looked for
before the environment is read. -/
def Options.inject (options : Options) (template : Text) (env : Environment) :
    Logged (Except InjectionError Text) :=
  match Region.find? template with
  | none => ⟨.error .regionMissing, []⟩
  | some region => (options.script env).map fun script => .ok (region.fill script)

/-- What comes of an injection into a file. -/
structure FileInjection where
  /-- Why it failed, if it did. -/
  error? : Option InjectionError
  /-- The bytes that are in the file afterwards, unless it is what it was. -/
  written? : Option (List UInt8)
  /-- What happened, whether or not it failed. -/
  events : List Event
  deriving DecidableEq, Repr

/-- What stands under the path after the injection, where `file` stood before. -/
def FileInjection.after (done : FileInjection) (file : FileState) : FileState :=
  done.written?.elim file .contents

/-- Puts the script for an environment into a template file; `write` is how the system takes the
bytes that are to be written there. -/
def Options.injectIntoFile (options : Options) (write : List UInt8 → WriteOutcome)
    (file : FileState) (env : Environment) : FileInjection :=
  match file.readText with
  | .error reason => ⟨some (.unreadable reason), none, []⟩
  | .ok template =>
    let out := options.inject template env
    match out.value with
    | .error e => ⟨some e, none, out.events⟩
    | .ok text =>
      let bytes := Text.Utf8.encode text
      ⟨(write bytes).fault?.map .unwritable, (write bytes).left? bytes, out.events⟩

end UiBootstrap

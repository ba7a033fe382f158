import UiBootstrap.Schema
import UiBootstrap.Keyed

/-!
# Defaults

Settings that stand before the environment is read. Any variable that sets the same key, legacy or
not, takes their place.
-/

namespace UiBootstrap

/-- A default value with the type it is written in. -/
structure Setting where
  value : Text
  type : ValueType := .string
  deriving DecidableEq, Repr

/-- The schema under which a default for `key` is held. -/
def Setting.schema (key : Text) (s : Setting) : VarSchema :=
  { key, type := s.type, isDefault := true }

/-- Defaults by key, in the order in which they are written. -/
structure Defaults where
  entries : Keyed Setting := []
  deriving DecidableEq, Repr

namespace Defaults

/-- Sets a key: in its place if it is there, at the end if it is new. -/
def insert (defaults : Defaults) (key : Text) (s : Setting) : Defaults :=
  ⟨defaults.entries.put key s⟩

/-- The default for a key. -/
def get? (defaults : Defaults) (key : Text) : Option Setting := defaults.entries.get? key

/-- How many keys have a default. -/
def size (defaults : Defaults) : Nat := defaults.entries.length

/-- Whether no key has a default. -/
def isEmpty (defaults : Defaults) : Bool := defaults.entries.isEmpty

/-- The defaults that the given settings make up; a repeated key keeps its first place and its last
value. -/
def ofList (settings : List (Text × Setting)) : Defaults :=
  settings.foldl (fun defaults (key, s) => defaults.insert key s) {}

/-- The document loaded when nothing else is configured. -/
def url : Text := "https://petstore.swagger.io/v2/swagger.json"

/-- The presets of the stand-alone page. -/
def presets : Text :=
  "[\n  SwaggerUIBundle.presets.apis,\n  SwaggerUIStandalonePreset\n]"

/-- The plugins of the stand-alone page. -/
def plugins : Text := "[\n  SwaggerUIBundle.plugins.DownloadUrl\n]"

/-- Sends the requests that go to the proxy on to the server behind it. -/
def requestInterceptor : Text :=
  "function (request) \x7b\n" ++
  "  request.url = request.url.split(\":8081/\").join(\":8080/\");\n" ++
  "  console.log(\"[requestInterceptor] :8080\", request);\n" ++
  "  return request;\n" ++
  "\x7d"

/-- The built-in defaults. -/
def standard : Defaults := ofList [
  ("url", ⟨url, .string⟩),
  ("dom_id", ⟨"#swagger-ui", .string⟩),
  ("deepLinking", ⟨"true", .boolean⟩),
  ("presets", ⟨presets, .array⟩),
  ("plugins", ⟨plugins, .array⟩),
  ("layout", ⟨"StandaloneLayout", .string⟩),
  ("requestInterceptor", ⟨requestInterceptor, .function⟩)]

end Defaults

end UiBootstrap

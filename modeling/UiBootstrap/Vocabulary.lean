import UiBootstrap.Schema
import UiBootstrap.Keyed

/-!
# Vocabularies

The environment variables that are recognized, each by name with its schema. Several variables may
set one key. Two vocabularies are built in: `standard` for the configuration of the user interface
and `oauth` for the call that sets up authorization.
-/

namespace UiBootstrap

/-- The recognized variables, each with its schema. -/
structure Vocabulary where
  entries : Keyed VarSchema := []
  deriving DecidableEq, Repr

namespace Vocabulary

/-- The schema of a variable. -/
def get? (vocabulary : Vocabulary) (name : Text) : Option VarSchema :=
  vocabulary.entries.get? name

/-- Adds a variable, or replaces its schema. -/
def insert (vocabulary : Vocabulary) (name : Text) (schema : VarSchema) : Vocabulary :=
  ⟨vocabulary.entries.put name schema⟩

/-- How many variables are recognized. -/
def size (vocabulary : Vocabulary) : Nat := vocabulary.entries.length

/-- Whether no variable is recognized. -/
def isEmpty (vocabulary : Vocabulary) : Bool := vocabulary.entries.isEmpty

/-- The vocabulary of the given variables; of two with one name the later counts. -/
def ofList (schemas : List (Text × VarSchema)) : Vocabulary :=
  schemas.foldl (fun vocabulary (name, schema) => vocabulary.insert name schema) {}

/-- The variables understood by the call that starts the user interface. -/
def standard : Vocabulary := ofList [
  ("CONFIG_URL", .ofType "configUrl" .string),
  ("DOM_ID", .ofType "dom_id" .string),
  ("SPEC", .ofType "spec" .object),
  ("URL", .ofType "url" .string),
  ("URLS", .ofType "urls" .array),
  ("URLS_PRIMARY_NAME", .ofType "urls.primaryName" .string),
  ("LAYOUT", .ofType "layout" .string),
  ("DEEP_LINKING", .ofType "deepLinking" .boolean),
  ("DISPLAY_OPERATION_ID", .ofType "displayOperationId" .boolean),
  ("DEFAULT_MODELS_EXPAND_DEPTH", .ofType "defaultModelsExpandDepth" .number),
  ("DEFAULT_MODEL_EXPAND_DEPTH", .ofType "defaultModelExpandDepth" .number),
  ("DEFAULT_MODEL_RENDERING", .ofType "defaultModelRendering" .string),
  ("DISPLAY_REQUEST_DURATION", .ofType "displayRequestDuration" .boolean),
  ("DOC_EXPANSION", .ofType "docExpansion" .string),
  ("FILTER", .ofType "filter" .string),
  ("MAX_DISPLAYED_TAGS", .ofType "maxDisplayedTags" .number),
  ("SHOW_EXTENSIONS", .ofType "showExtensions" .boolean),
  ("SHOW_COMMON_EXTENSIONS", .ofType "showCommonExtensions" .boolean),
  ("OAUTH2_REDIRECT_URL", .ofType "oauth2RedirectUrl" .string),
  ("SHOW_MUTATED_REQUEST", .ofType "showMutatedRequest" .boolean),
  ("SUPPORTED_SUBMIT_METHODS", .ofType "supportedSubmitMethods" .array),
  ("VALIDATOR_URL", .ofType "validatorUrl" .string),
  ("WITH_CREDENTIALS", .ofType "withCredentials" .boolean),
  ("API_URL", .warning
    "Usage of the `API_URL` environment variable is deprecated. Please use `URL` instead."
    (.asLegacy (.ofType "url" .string))),
  ("API_URLS", .warning
    "Usage of the `API_URLS` environment variable is deprecated. Please use `URLS` instead."
    (.asLegacy (.ofType "urls" .array)))]

/-- The variables passed to the call that sets up authorization. -/
def oauth : Vocabulary := ofList [
  ("OAUTH_CLIENT_ID", .ofType "clientId" .string),
  ("OAUTH_REALM", .ofType "realm" .string),
  ("OAUTH_APP_NAME", .ofType "appName" .string),
  ("OAUTH_SCOPE_SEPARATOR", .ofType "scopeSeparator" .string),
  ("OAUTH_ADDITIONAL_PARAMS", .ofType "additionalQueryStringParams" .object),
  ("OAUTH_USE_BASIC_AUTH",
    .ofType "useBasicAuthenticationWithAccessCodeGrant" .boolean),
  ("OAUTH_USE_PKCE", .ofType "usePkceWithAuthorizationCodeGrant" .boolean),
  ("OAUTH_CLIENT_SECRET", .warning
    ("OAUTH_CLIENT_SECRET is embedded in the page and visible to every browser that loads it. " ++
    "Do not use a secret that grants access to anything sensitive.")
    (.ofType "clientSecret" .string))]

end Vocabulary

end UiBootstrap

import UiBootstrap.Resolution
import UiBootstrap.Text.Indent

/-!
# The bootstrap script

The call that starts the user interface and, if a variable for authorization is set, the call that
sets that up after it.
-/

namespace UiBootstrap

/-- A call of `function` with the object whose body is `fragment`. -/
def callText (function fragment : Text) : Text :=
  if fragment.isEmpty then function ++ "(\x7b\n\x7d)"
  else function ++ "(\x7b\n" ++ Text.indent 2 0 fragment ++ "\n\x7d)"

/-- The call that sets up authorization, or nothing if no variable asks for it. -/
def oauthScript (env : Environment) : Logged Text :=
  (Options.oauth.fragment env).map fun fragment =>
    if fragment.isEmpty then [] else callText "ui.initOAuth" fragment

/-- The whole script. -/
def Options.script (options : Options) (env : Environment) : Logged Text :=
  (options.fragment env).bind fun fragment =>
    (oauthScript env).map fun oauth =>
      let call := callText "window.ui = SwaggerUIBundle" fragment
      if oauth.isEmpty then call else call ++ "\n\n" ++ oauth

end UiBootstrap

import UiBootstrap.Script
import UiBootstrap.Proofs.Fragment
import UiBootstrap.Proofs.Indentation
import UiBootstrap.Proofs.Merge.ClosedForm

/-!
# Reading a script back

Values are written into a script as they are, so one with newlines in it may look like the end of a
call, or like the start of another. But it never stands at the start of a line: in a script every
line of a fragment stands behind two spaces (`callText_isBody`), and the lines that open and close a
call do not. So the first line that closes a call is the call's own, and what stands before it,
without the spaces, is the fragment of the call (`readCall?_callLines`). `Options.script_readable`
says so of the whole script.
-/

namespace UiBootstrap

variable {function fragment : Text} {body rest : List Text}

/-! ## What a call consists of -/

/-- What stands in front of each line of a fragment. -/
def bodyMargin : Text := "  "

/-- The line that opens a call of a function. -/
def callOpening (function : Text) : Text := function ++ "(\x7b"

/-- The line that closes a call. -/
def callClosing : Text := "\x7d)"

/-- The lines of a fragment as they stand in a call. An empty fragment has none. -/
def bodyLines (fragment : Text) : List Text :=
  if fragment = [] then [] else (Text.lines fragment).map (bodyMargin ++ ·)

/-- The lines of a call. -/
def callLines (function fragment : Text) : List Text :=
  callOpening function :: bodyLines fragment ++ [callClosing]

/-- The lines between those that open and close a call, for a fragment: none of them closes the
call, each stands behind two spaces, and without these they are the fragment. -/
structure IsBody (body : List Text) (fragment : Text) : Prop where
  unclosed : callClosing ∉ body
  indented : ∀ l ∈ body, bodyMargin <+: l
  unindented : Text.unlines (body.map (·.drop bodyMargin.length)) = fragment

/-- The line that closes a call is not indented. -/
theorem not_bodyMargin_prefix_callClosing : ¬ bodyMargin <+: callClosing := by decide

/-- The indented lines of a fragment are such lines. -/
theorem bodyLines_isBody (fragment : Text) : IsBody (bodyLines fragment) fragment := by
  have hindented : ∀ l ∈ bodyLines fragment, bodyMargin <+: l := by
    intro l hl
    rw [bodyLines] at hl
    split at hl
    · cases hl
    · obtain ⟨line, -, rfl⟩ := List.mem_map.1 hl
      exact List.prefix_append bodyMargin line
  refine ⟨fun hmem => not_bodyMargin_prefix_callClosing (hindented _ hmem), hindented, ?_⟩
  rw [bodyLines]
  split
  · next h => rw [h]; rfl
  · have hdrop : (Text.lines fragment).map ((·.drop bodyMargin.length) ∘ (bodyMargin ++ ·)) =
        (Text.lines fragment).map id := List.map_congr_left fun l _ => List.drop_left
    rw [List.map_map, hdrop, List.map_id, Text.unlines_lines]

/-- A call is its lines. -/
theorem lines_callText (function : Text) (h : '\n' ∉ function) (fragment : Text) :
    Text.lines (callText function fragment) = callLines function fragment := by
  have hopening : '\n' ∉ callOpening function := by
    rw [callOpening, List.mem_append, not_or]
    exact ⟨h, by decide⟩
  have hclosing : Text.lines callClosing = [callClosing] := Text.lines_of_not_mem (by decide)
  rw [callText, callLines, bodyLines]
  by_cases hf : fragment = []
  · have hsplit : function ++ ("(\x7b\n\x7d)" : Text) =
        callOpening function ++ '\n' :: callClosing := by
      simp [callOpening, callClosing]
    rw [if_pos (List.isEmpty_iff.2 hf), if_pos hf, hsplit, Text.lines_append_newline hopening,
      hclosing]
    rfl
  · have hsplit : function ++ ("(\x7b\n" : Text) ++ Text.indent 2 0 fragment ++ ("\n\x7d)" : Text) =
        callOpening function ++ '\n' :: (Text.indent 2 0 fragment ++ '\n' :: callClosing) := by
      simp [callOpening, callClosing]
    have hbody : Text.lines (Text.indent 2 0 fragment) =
        (Text.lines fragment).map (bodyMargin ++ ·) := Text.lines_withMargin (by decide) 0 fragment
    rw [if_neg (by simpa using hf), if_neg hf, hsplit, Text.lines_append_newline hopening,
      Text.lines_append_cons_newline, hbody, hclosing]
    rfl

/-- A call is more than nothing. -/
theorem callText_ne_nil : callText function fragment ≠ [] := by
  rw [callText]
  split <;> simp

/-! ## Reading -/

/-- Reads the lines of a fragment up to the first line that closes a call: these lines without the
two spaces in front of them, and the lines behind that one. -/
def readBody? : List Text → Option (List Text × List Text)
  | [] => none
  | l :: ls =>
    if l = callClosing then some ([], ls)
    else
      match bodyMargin.isPrefixOf? l, readBody? ls with
      | some line, some (body, rest) => some (line :: body, rest)
      | _, _ => none

/-- Reads a call of a function: its fragment, and the lines behind the call. -/
def readCall? (function : Text) : List Text → Option (Text × List Text)
  | [] => none
  | l :: ls =>
    if l = callOpening function then
      (readBody? ls).map fun (body, rest) => (Text.unlines body, rest)
    else none

/-- The fragments of the calls in a script. -/
structure Calls where
  /-- The fragment of the call that starts the user interface. -/
  main : Text
  /-- The fragment of the call that sets up authorization, if there is one. -/
  oauth : Option Text
  deriving DecidableEq, Repr

/-- Reads a script: a call, and behind an empty line perhaps another one, with nothing behind it. -/
def Calls.ofScript? (script : Text) : Option Calls :=
  match readCall? "window.ui = SwaggerUIBundle" (Text.lines script) with
  | some (main, []) => some ⟨main, none⟩
  | some (main, [] :: ls) =>
    match readCall? "ui.initOAuth" ls with
    | some (oauth, []) => some ⟨main, some oauth⟩
    | _ => none
  | _ => none

/-- Indented lines are read up to the first line that closes a call. -/
theorem readBody?_map_append (ls rest : List Text) :
    readBody? (ls.map (bodyMargin ++ ·) ++ callClosing :: rest) = some (ls, rest) := by
  induction ls with
  | nil => exact if_pos rfl
  | cons l ls ih =>
    have hne : bodyMargin ++ l ≠ callClosing := fun h =>
      not_bodyMargin_prefix_callClosing (h ▸ List.prefix_append bodyMargin l)
    have hl : bodyMargin.isPrefixOf? (bodyMargin ++ l) = some l :=
      Text.isPrefixOf?_eq_some_iff.2 rfl
    rw [List.map_cons, List.cons_append, readBody?, if_neg hne, hl, ih]

/-- **A call is read back**, whatever stands in its fragment and whatever comes behind it. -/
theorem readCall?_callLines (function fragment : Text) (rest : List Text) :
    readCall? function (callLines function fragment ++ rest) = some (fragment, rest) := by
  have hbody : ∃ ls, bodyLines fragment = ls.map (bodyMargin ++ ·) ∧
      Text.unlines ls = fragment := by
    rw [bodyLines]
    split
    · next h => exact ⟨[], rfl, h.symm⟩
    · exact ⟨Text.lines fragment, rfl, Text.unlines_lines fragment⟩
  obtain ⟨ls, hls, hfragment⟩ := hbody
  have hsplit : callLines function fragment ++ rest =
      callOpening function :: (ls.map (bodyMargin ++ ·) ++ callClosing :: rest) := by
    simp [callLines, hls]
  rw [hsplit, readCall?, if_pos rfl, readBody?_map_append, ← hfragment]
  rfl

/-! ## The whole script -/

namespace Options

variable {options : Options} {env : Environment}

/-- A fragment is empty exactly if there are no defaults to start from and no variable is
recognized. -/
theorem fragment_eq_nil_iff : (options.fragment env).value = [] ↔
    options.seeded = [] ∧ ∀ v ∈ env, options.vocabulary.get? v.1 = none := by
  have hfragment : (options.fragment env).value = (options.merge env).listing.fragment := rfl
  rw [hfragment, Listing.fragment_eq_nil_iff, merge, entries_merge_eq_nil_iff,
    Vocabulary.recognized_eq_nil_iff, entries_start]

/-- The lines of a script: those of the first call, and if the second has a fragment, an empty line
and those of the second. -/
theorem lines_script (options : Options) (env : Environment) :
    Text.lines (options.script env).value =
      callLines "window.ui = SwaggerUIBundle" (options.fragment env).value ++
        if (oauth.fragment env).value = [] then []
        else [] :: callLines "ui.initOAuth" (oauth.fragment env).value := by
  have hmain := lines_callText "window.ui = SwaggerUIBundle" (by decide)
    (options.fragment env).value
  have hoauth := lines_callText "ui.initOAuth" (by decide) (oauth.fragment env).value
  by_cases h : (oauth.fragment env).value = []
  · have hscript : (options.script env).value =
        callText "window.ui = SwaggerUIBundle" (options.fragment env).value := by
      simp [script, Logged.bind, Logged.map, oauthScript, h]
    rw [hscript, hmain, if_pos h, List.append_nil]
  · have hscript : (options.script env).value =
        callText "window.ui = SwaggerUIBundle" (options.fragment env).value ++
          '\n' :: ([] ++ '\n' :: callText "ui.initOAuth" (oauth.fragment env).value) := by
      simp [script, Logged.bind, Logged.map, oauthScript, h, callText_ne_nil]
    rw [hscript, Text.lines_append_cons_newline, Text.lines_append_cons_newline, hmain, hoauth,
      if_neg h]
    rfl

/-- **The calls of a script are read back**: the first with the fragment of the options, and the
second with that for the call that sets up authorization, unless this is empty. -/
theorem ofScript?_script (options : Options) (env : Environment) :
    Calls.ofScript? (options.script env).value =
      some ⟨(options.fragment env).value,
        if (oauth.fragment env).value = [] then none else some (oauth.fragment env).value⟩ := by
  rw [Calls.ofScript?, lines_script, readCall?_callLines]
  by_cases h : (oauth.fragment env).value = []
  · rw [if_pos h, if_pos h]
  · have hread := readCall?_callLines "ui.initOAuth" (oauth.fragment env).value []
    rw [List.append_nil] at hread
    simp only [if_neg h, hread]

/-- **A script can be read back**, whatever stands in the values of the environment. Its lines are
the one that opens the first call, indented lines, and a line that closes the call, the first one to
do so; the indented lines without their two spaces are the fragment of the options. Nothing stands
behind them exactly if the fragment for the call that sets up authorization is empty, which is so
exactly if the environment has none of its variables. Otherwise there follow an empty line and the
second call, made of that fragment in the same way, whose closing line is the last. -/
theorem script_readable (options : Options) (env : Environment) :
    let script := (options.script env).value
    let main := (options.fragment env).value
    let oauth := (Options.oauth.fragment env).value
    ∃ body rest : List Text,
      Text.lines script =
        ("window.ui = SwaggerUIBundle(\x7b" : Text) :: body ++ ("\x7d)" : Text) :: rest ∧
      IsBody body main ∧
      (rest = [] ↔ oauth = []) ∧
      (oauth = [] ↔ ∀ v ∈ env, Vocabulary.oauth.get? v.1 = none) ∧
      (oauth ≠ [] → ∃ body' : List Text,
        rest = [] :: ("ui.initOAuth(\x7b" : Text) :: body' ++ [("\x7d)" : Text)] ∧
          IsBody body' oauth) ∧
      Calls.ofScript? script = some ⟨main, if oauth = [] then none else some oauth⟩ := by
  intro script main oauth
  have hlines : Text.lines script = callLines "window.ui = SwaggerUIBundle" main ++
      if oauth = [] then [] else [] :: callLines "ui.initOAuth" oauth := lines_script options env
  refine ⟨bodyLines main, if oauth = [] then [] else [] :: callLines "ui.initOAuth" oauth, ?_,
    bodyLines_isBody main, ?_, ?_, fun h => ⟨bodyLines oauth, ?_, bodyLines_isBody oauth⟩, ?_⟩
  · rw [hlines, callLines, List.append_assoc, List.singleton_append]
    rfl
  · by_cases h : oauth = [] <;> simp [h]
  · rw [fragment_eq_nil_iff]
    exact and_iff_right rfl
  · rw [if_neg h]
    rfl
  · exact ofScript?_script options env

/-- An environment that imitates the end of one call and the start of the other. -/
theorem script_readable_standard :
    let forged : Text := "\n\x7d)\n\nui.initOAuth(\x7b\n  realm: \"no\",\n\x7d)"
    Calls.ofScript? (Options.standard.script [("URL", forged), ("OAUTH_REALM", "yes")]).value =
      some ⟨"url: \"" ++ forged ++ "\",", some "realm: \"yes\","⟩ := by
  intro forged
  obtain ⟨-, -, -, -, -, -, -, h⟩ :=
    script_readable .standard [("URL", forged), ("OAUTH_REALM", "yes")]
  exact h.trans (by decide +kernel)

end Options

end UiBootstrap

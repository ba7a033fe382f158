import UiBootstrap.Proofs.Script

/-!
# The trim and the empty forms

A fragment is trimmed, and then it depends on whether it is empty which form a call has. There is no
white space to trim, whatever stands in the keys and values, so a fragment is empty only if nothing
is listed (`Options.fragment_eq_nil_iff`), and the form of a call with nothing in it says just that
(`callText_prefix_iff`, `oauthScript_eq_nil_iff`). `Options.trim_loses_nothing` puts this together.
-/

namespace UiBootstrap

/-- A fragment stands indented in a call. -/
theorem bodyMargin_prefix_indent (fragment : Text) : bodyMargin <+: Text.indent 2 0 fragment := by
  rw [Text.indent, Text.withMargin_zero]
  obtain ⟨l, ls, hls⟩ := List.exists_cons_of_ne_nil (Text.lines_ne_nil fragment)
  rw [hls]
  cases ls with
  | nil => exact List.prefix_append bodyMargin l
  | cons l' ls => exact (List.prefix_append bodyMargin l).trans (List.prefix_append _ _)

/-- **The form of a call with nothing in it is that of an empty fragment only**, whatever comes
behind the call. -/
theorem callText_prefix_iff (function fragment rest : Text) :
    function ++ ("(\x7b\n\x7d)" : Text) <+: callText function fragment ++ rest ↔ fragment = [] := by
  constructor
  · intro h
    by_contra hne
    obtain ⟨body, hbody⟩ := bodyMargin_prefix_indent fragment
    rw [callText, if_neg (by simpa using hne), ← hbody] at h
    simp [bodyMargin] at h
  · rintro rfl
    exact List.prefix_append _ _

/-- There is no call that sets up authorization exactly if its fragment is empty. -/
theorem oauthScript_eq_nil_iff {env : Environment} :
    (oauthScript env).value = [] ↔ (Options.oauth.fragment env).value = [] := by
  by_cases h : (Options.oauth.fragment env).value = []
  · simp [oauthScript, Logged.map, h]
  · simp [oauthScript, Logged.map, h, callText_ne_nil]

namespace Options

/-- A script starts with the call for the fragment of the options. -/
theorem exists_script_eq (options : Options) (env : Environment) :
    ∃ rest, (options.script env).value =
      callText "window.ui = SwaggerUIBundle" (options.fragment env).value ++ rest := by
  by_cases h : (oauthScript env).value = []
  · exact ⟨[], by simp [script, Logged.bind, Logged.map, h]⟩
  · exact ⟨"\n\n" ++ (oauthScript env).value, by simp [script, Logged.bind, Logged.map, h]⟩

/-- **The final trim loses nothing.** A fragment is the lines of what is listed, one under the
other; it neither starts nor ends with white space, and it is empty exactly if there are no defaults
to start from and no variable is recognized. So a script starts with a call that has nothing in it
exactly if nothing is listed, and there is no call that sets up authorization exactly if nothing is
listed for that. -/
theorem trim_loses_nothing (options : Options) (env : Environment) :
    let listing := (options.merge env).listing
    let fragment := (options.fragment env).value
    fragment = Text.unlines listing.lines ∧
      (fragment = [] ∨ Text.Framed fragment) ∧
      (fragment = [] ↔
        options.seeded = [] ∧ ∀ v ∈ env, options.vocabulary.get? v.1 = none) ∧
      (("window.ui = SwaggerUIBundle(\x7b\n\x7d)" : Text) <+: (options.script env).value ↔
        listing.entries = []) ∧
      ((oauthScript env).value = [] ↔ (oauth.merge env).listing.entries = []) := by
  intro listing fragment
  have hfragment : fragment = listing.fragment := rfl
  refine ⟨listing.fragment_eq_unlines, ?_, fragment_eq_nil_iff, ?_, ?_⟩
  · by_cases hnil : listing.entries = []
    · exact .inl (listing.fragment_eq_nil_iff.2 hnil)
    · exact .inr (Listing.fragment_framed hnil)
  · obtain ⟨rest, hscript⟩ := exists_script_eq options env
    rw [hscript, ← listing.fragment_eq_nil_iff, ← hfragment]
    exact callText_prefix_iff "window.ui = SwaggerUIBundle" fragment rest
  · rw [oauthScript_eq_nil_iff]
    exact Listing.fragment_eq_nil_iff _

/-- A default that survives, and keys and values, that are nothing but white space. Without that
default, and with no variable recognized, there is nothing. -/
theorem trim_loses_nothing_blank :
    let vocabulary : Vocabulary := .ofList [("A", .ofType "\t" .number), ("B", .ofType "" .string)]
    let defaults : Defaults := .ofList [("\u2003", ⟨"\n", .number⟩), ("\t", ⟨"1", .number⟩)]
    let blank : Options := { seed := true, vocabulary, defaults }
    let env : Environment := [("A", "\n "), ("B", "\u00a0\n")]
    (blank.fragment env).value = "\"\u2003\": \n,\n\"\t\": \n ,\n: \"\u00a0\n\"," ∧
      ¬ ("window.ui = SwaggerUIBundle(\x7b\n\x7d)" : Text) <+: (blank.script env).value ∧
      (blank.fragment []).value ≠ [] ∧
      (({ blank with seed := false } : Options).fragment [("C", "c")]).value = [] := by
  intro vocabulary defaults blank env
  obtain ⟨hfragment, -, -, hscript, -⟩ := trim_loses_nothing blank env
  obtain ⟨-, -, hnil, -⟩ := trim_loses_nothing blank []
  obtain ⟨-, -, hnone, -⟩ := trim_loses_nothing { blank with seed := false } [("C", "c")]
  exact ⟨hfragment.trans (by decide +kernel), fun h => absurd (hscript.1 h) (by decide +kernel),
    fun h => absurd (hnil.1 h).1 (by decide +kernel), hnone.2 ⟨rfl, by decide +kernel⟩⟩

end Options

end UiBootstrap

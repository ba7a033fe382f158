import UiBootstrap.Proofs.Runs
import UiBootstrap.Proofs.Script
import UiBootstrap.Proofs.Utf8

/-!
# Injecting and printing agree

An injection always starts from the defaults, printing does so if it is asked to, and the fragment
for the call that sets up authorization has a vocabulary of its own; each run gets its options by
itself. `Cli.injection_agrees_with_printing` says that what they write is the same nevertheless: the
script that an injection leaves in a template can be read back out of it
(`Region.exists_filling`, `Calls.ofScript?`), and its fragments are those that are printed.
-/

namespace UiBootstrap

namespace Region

/-- The margin is a part of one line. -/
theorem newline_not_mem_margin (region : Region) : '\n' ∉ region.margin := by
  rw [margin]
  split
  · exact (Text.isLastLine_lastLine region.before).1
  · exact List.not_mem_nil

/-- **A script is found in the region that was filled with it**, on the lines between the markers,
when the margin is taken away from each. -/
theorem exists_filling (region : Region) (script : Text) : ∃ text : Text,
    region.fill script = region.before ++ startMarker ++ "\n" ++ text ++ "\n" ++ region.margin ++
      endMarker ++ region.after ∧
    Text.withoutMargin? region.margin 0 text = some script :=
  ⟨_, rfl, Text.withoutMargin?_withMargin region.newline_not_mem_margin 0 script⟩

end Region

namespace Options

/-- The calls of a script have the fragments that are made for them; where the second is missing its
fragment is empty. -/
theorem exists_calls (options : Options) (env : Environment) : ∃ calls : Calls,
    Calls.ofScript? (options.script env).value = some calls ∧
      calls.main = (options.fragment env).value ∧
      calls.oauth.getD [] = (oauth.fragment env).value := by
  refine ⟨_, ofScript?_script options env, rfl, ?_⟩
  by_cases h : (oauth.fragment env).value = []
  · rw [if_pos h, Option.getD_none, h]
  · rw [if_neg h, Option.getD_some]

end Options

namespace Cli

variable {platform : Platform} {args : List Text} {vars : List RawVariable} {files : Files}
  {config : Option Text} {template t : Text} {base : Bool} {options : Options} {region : Region}

/-! ## What a run writes -/

/-- What is printed from an environment is followed by a newline. -/
theorem stdout_printing (compute : Environment → Logged Text) :
    (printing platform vars files compute).stdout =
      (compute (RawVariable.readable vars).value).value ++ "\n" := rfl

/-- A run that prints the fragment. -/
theorem run_render_of_ok
    (hargs : Request.ofArguments? args = some (.run (.render base config)))
    (h : loadOptions files config base = .ok options) :
    run platform args vars files = printing platform vars files options.fragment := by
  rw [run_of_command hargs]
  exact withOptions_of_ok h

/-- An injection that exits with 0 has its options. -/
theorem exists_options_of_exit
    (hargs : Request.ofArguments? args = some (.run (.inject template config)))
    (hexit : (run platform args vars files).exit = 0) :
    ∃ options, loadOptions files config true = .ok options := by
  rcases loadOptions_cases files config true with hoptions | ⟨path, e, rfl, he⟩
  · exact hoptions
  · rw [run_of_command hargs, Command.run_of_error rfl he] at hexit
    cases hexit

/-- What stands in the template after an injection that exits with 0. -/
theorem readText_look_injecting (h : (files.look template).readText = .ok t)
    (hregion : Region.find? t = some region)
    (hexit : (injecting platform vars files options template).exit = 0) :
    ((injecting platform vars files options template).files.look template).readText =
      .ok (region.fill (options.script (RawVariable.readable vars).value).value) := by
  have hwriting := afterWriting_injecting h hregion platform vars options
  rw [(hwriting.rewritten_of_exit hexit).look_self]
  exact FileState.readText_ofText _

/-! ## The law -/

/-- **Injecting and printing agree.** Let an injection exit with 0 for a template with a call
region. The template then reads as what stood before the region, the start marker, a newline, some
text, a newline, the margin, the end marker and what stood behind the region. The text without its
margin is a script that can be read back. The fragment of its first call is what a run prints,
before a newline, that is asked for the fragment with the defaults, by the same overrides file; and
that of its second, or nothing if there is none, is what a run prints that is asked for the fragment
for authorization, each in the same environment and among the files as they were before. -/
theorem injection_agrees_with_printing (platform : Platform)
    (args renderArgs oauthArgs : List Text) (vars : List RawVariable) (files : Files)
    (template t : Text) (config : Option Text)
    (hargs : Request.ofArguments? args = some (.run (.inject template config)))
    (hrender : Request.ofArguments? renderArgs = some (.run (.render true config)))
    (hoauth : Request.ofArguments? oauthArgs = some (.run .renderOauth))
    (ht : (files.look template).readText = .ok t) (hcuts : ∃ region : Region, region.Cuts t)
    (hexit : (run platform args vars files).exit = 0) :
    ∃ (region : Region) (written text script : Text) (calls : Calls),
      region.IsFirst t ∧
      ((run platform args vars files).files.look template).readText = .ok written ∧
      written = region.before ++ startMarker ++ "\n" ++ text ++ "\n" ++ region.margin ++
        endMarker ++ region.after ∧
      Text.withoutMargin? region.margin 0 text = some script ∧
      Calls.ofScript? script = some calls ∧
      (run platform renderArgs vars files).exit = 0 ∧
      (run platform renderArgs vars files).stdout = calls.main ++ "\n" ∧
      (run platform oauthArgs vars files).exit = 0 ∧
      (run platform oauthArgs vars files).stdout = calls.oauth.getD [] ++ "\n" := by
  obtain ⟨other, hother⟩ := hcuts
  obtain ⟨region, hregion⟩ := Region.exists_find?_of_cuts hother
  obtain ⟨options, hoptions⟩ := exists_options_of_exit hargs hexit
  have hinjected : run platform args vars files =
      injecting platform vars files options template := run_inject_of_ok hargs hoptions
  have hprinted : run platform renderArgs vars files =
      printing platform vars files options.fragment := run_render_of_ok hrender hoptions
  have hprinted' : run platform oauthArgs vars files =
      printing platform vars files Options.oauth.fragment := run_of_command hoauth
  obtain ⟨text, hfill, hscript⟩ :=
    region.exists_filling (options.script (RawVariable.readable vars).value).value
  obtain ⟨calls, hcalls, hmain, hsecond⟩ := options.exists_calls (RawVariable.readable vars).value
  refine ⟨region, _, text, _, calls, Region.isFirst_of_find? hregion, ?_, hfill, hscript, hcalls,
    ?_, ?_, ?_, ?_⟩
  · rw [hinjected] at hexit ⊢
    exact readText_look_injecting ht hregion hexit
  · rw [hprinted]
    rfl
  · rw [hprinted, stdout_printing, hmain]
  · rw [hprinted']
    rfl
  · rw [hprinted', stdout_printing, hsecond]

/-- A template behind a tab, an overrides file with a default, a value of two lines, a variable for
authorization and one that is not UTF-8. -/
theorem injection_agrees_with_printing_standard :
    let files : Files := [("t.html", .ofText ("\t" ++ startMarker ++ endMarker)),
      ("o.toml", .ofText "base = [[\"theme\", \"dark\"]]")]
    let vars : List RawVariable := [(Text.Utf8.encode "URL", Text.Utf8.encode "a\n\x7d)"),
      (Text.Utf8.encode "OAUTH_REALM", Text.Utf8.encode "r"), ([0xFF], [])]
    let platform : Platform := .plain .done
    ∃ (written text script : Text) (calls : Calls),
      ((run platform ["inject", "t.html", "-c", "o.toml"] vars files).files.look
        "t.html").readText = .ok written ∧
      written = "\t" ++ startMarker ++ "\n" ++ text ++ "\n" ++ "\t" ++ endMarker ∧
      Text.withoutMargin? "\t" 0 text = some script ∧ Calls.ofScript? script = some calls ∧
      (run platform ["render", "--base", "--config=o.toml"] vars files).stdout =
        calls.main ++ "\n" ∧
      (run platform ["render", "--oauth"] vars files).stdout = calls.oauth.getD [] ++ "\n" := by
  intro files vars platform
  obtain ⟨region, written, text, script, calls, hfirst, hwritten, hshape, htext, hcalls, -,
      hmain, -, hoauth⟩ :=
    injection_agrees_with_printing platform ["inject", "t.html", "-c", "o.toml"]
      ["render", "--base", "--config=o.toml"] ["render", "--oauth"] vars files "t.html"
      ("\t" ++ startMarker ++ endMarker) (some "o.toml") (by decide +kernel) (by decide +kernel)
      (by decide +kernel) (by decide +kernel) ⟨⟨"\t", [], []⟩, rfl⟩ (by decide +kernel)
  obtain rfl : region = ⟨"\t", [], []⟩ :=
    hfirst.unique (Region.isFirst_of_find? (by decide +kernel))
  have hmargin : Region.margin ⟨"\t", [], []⟩ = "\t" := by decide
  rw [hmargin] at hshape htext
  rw [List.append_nil] at hshape
  exact ⟨written, text, script, calls, hwritten, hshape, htext, hcalls, hmain, hoauth⟩

end Cli

end UiBootstrap

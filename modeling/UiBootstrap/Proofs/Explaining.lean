import UiBootstrap.Proofs.Agreement
import UiBootstrap.Proofs.Json.Text
import UiBootstrap.Proofs.Merge.Effects
import UiBootstrap.Proofs.Readable

/-!
# Printing the fragment and explaining it agree

A run that prints the fragment and one that explains how it came about compute it from the same
resolution. It is printed in three forms: as it is, as a member of a JSON object, and behind the
lines of a report. `Cli.explain_agrees_with_render` says that each form can be taken back to the
same fragment: the JSON text is read back as a whole (`Json.read?_pretty`), with an entry for each
recognized variable and the count of the others, and the report ends with the fragment.
-/

namespace UiBootstrap

variable {platform : Cli.Platform} {vars : List RawVariable} {files : Files}
  {config : Option Text} {base human : Bool} {options : Options}

/-! ## The environment -/

/-- Those variables are ignored that are not recognized. -/
theorem ignored_merge_eq_countP (start : Listing) (vocabulary : Vocabulary) (env : Environment) :
    (vocabulary.merge start env).ignored =
      env.countP fun v => (vocabulary.get? v.1).isNone := by
  induction env generalizing start with
  | nil => rfl
  | cons v env ih =>
    obtain ⟨name, value⟩ := v
    cases h : vocabulary.get? name with
    | none => simp [Vocabulary.merge, h, ih]
    | some schema => simp [Vocabulary.merge, h, ih]

/-! ## The two forms of a report -/

/-- The entries of a report have the recognized variables and their keys, in order. -/
theorem map_field?_entries (options : Options) (env : Environment) :
    ((options.resolve env).value.trace.map TraceEntry.toJson).map (fun entry =>
        (entry.field? "variable", entry.field? "key")) =
      env.filterMap fun v => (options.vocabulary.get? v.1).map fun schema =>
        (some (.string v.1), some (.string schema.key)) := by
  have htrace := congrArg (List.map fun p : Text × Text =>
    (some (Json.string p.1), some (Json.string p.2)))
    (Vocabulary.isToldBy_merge options.start options.vocabulary env).map_name_trace
  rw [List.map_map, List.map_filterMap] at htrace
  rw [List.map_map]
  refine htrace.trans (List.filterMap_congr fun v _ => ?_)
  rw [Option.map_map]
  rfl

/-- The lines of a report for a human reader above the fragment: one for each entry, and the count.
-/
def Resolution.account (r : Resolution) : Text :=
  Text.unlines (r.trace.map (·.line) ++ [ignoredLine r.ignored])

/-- **A report for a human reader ends with an empty line and the fragment.** -/
theorem Resolution.humanText_eq (r : Resolution) :
    r.humanText = r.account ++ "\n" ++ "\n" ++ r.fragment := by
  have hlines : r.trace.map (·.line) ++ [ignoredLine r.ignored, [], r.fragment] =
      (r.trace.map (·.line) ++ [ignoredLine r.ignored]) ++ [[], r.fragment] := by simp
  rw [humanText, hlines, Text.unlines_append (by simp) (by simp)]
  simp [account, Text.unlines]

namespace Cli

/-! ## The runs -/

/-- A run that explains. -/
theorem run_explain_of_ok {args : List Text}
    (hargs : Request.ofArguments? args = some (.run (.explain base human config)))
    (h : loadOptions files config base = .ok options) :
    run platform args vars files = printing platform vars files fun env =>
      (options.resolve env).map fun r => if human then r.humanText else r.jsonText := by
  rw [run_of_command hargs]
  exact withOptions_of_ok h

/-- **Printing the fragment and explaining it agree.** Let three runs be asked for the fragment, for
its explanation and for its explanation to a human reader, with or without the defaults and by the
same overrides file, in the same environment and among the same files. They exit with the same code
and report the same on the error output. If that code is 0, the second run prints the text of a JSON
object and a newline. Read back, its first member is the fragment that the first run prints before a
newline; its second has an object for each variable that is UTF-8 and recognized, in the order of
the environment, with its name and its key; and its third is the number of variables that are UTF-8
and not recognized. What the third run prints ends with an empty line and all that the first prints.
-/
theorem explain_agrees_with_render (platform : Platform)
    (renderArgs explainArgs humanArgs : List Text) (vars : List RawVariable) (files : Files)
    (base : Bool) (config : Option Text)
    (hrender : Request.ofArguments? renderArgs = some (.run (.render base config)))
    (hexplain : Request.ofArguments? explainArgs = some (.run (.explain base false config)))
    (hhuman : Request.ofArguments? humanArgs = some (.run (.explain base true config))) :
    let rendered := run platform renderArgs vars files
    let explained := run platform explainArgs vars files
    let told := run platform humanArgs vars files
    let env := vars.filterMap RawVariable.decode?
    (explained.exit = rendered.exit ∧ told.exit = rendered.exit) ∧
      (explained.stderr = rendered.stderr ∧ told.stderr = rendered.stderr) ∧
      (rendered.exit = 0 → ∃ (options : Options) (fragment text front : Text) (entries : List Json),
        loadOptions files config base = .ok options ∧
        rendered.stdout = fragment ++ "\n" ∧
        explained.stdout = text ++ "\n" ∧
        Json.read? text = some (.object [("fragment", .string fragment),
          ("entries", .array entries),
          ("ignored", .number (env.countP fun v => (options.vocabulary.get? v.1).isNone))]) ∧
        entries.map (fun entry => (entry.field? "variable", entry.field? "key")) =
          env.filterMap (fun v => (options.vocabulary.get? v.1).map fun schema =>
            (some (.string v.1), some (.string schema.key))) ∧
        told.stdout = front ++ "\n" ++ "\n" ++ rendered.stdout) := by
  intro rendered explained told env
  rcases loadOptions_cases files config base with ⟨options, hoptions⟩ | ⟨path, e, rfl, he⟩
  · have hrendered : rendered = printing platform vars files options.fragment :=
      run_render_of_ok hrender hoptions
    have hexplained : explained = printing platform vars files fun env =>
        (options.resolve env).map Resolution.jsonText := run_explain_of_ok hexplain hoptions
    have htold : told = printing platform vars files fun env =>
        (options.resolve env).map Resolution.humanText := run_explain_of_ok hhuman hoptions
    rw [hrendered, hexplained, htold]
    refine ⟨⟨rfl, rfl⟩, ⟨rfl, rfl⟩, fun _ => ?_⟩
    have henv : (RawVariable.readable vars).value = env := RawVariable.value_readable vars
    have hignored : (options.resolve env).value.ignored =
        env.countP fun v => (options.vocabulary.get? v.1).isNone :=
      ignored_merge_eq_countP options.start options.vocabulary env
    refine ⟨options, (options.fragment env).value, (options.resolve env).value.jsonText,
      (options.resolve env).value.account, (options.resolve env).value.trace.map TraceEntry.toJson,
      hoptions, ?_, ?_, ?_, map_field?_entries options env, ?_⟩
    · rw [stdout_printing, henv]
    · rw [stdout_printing, henv]
      rfl
    · rw [← hignored]
      exact Json.read?_pretty 0 _
    · rw [stdout_printing, stdout_printing, henv, ← List.append_assoc]
      exact congrArg (· ++ ("\n" : Text)) (options.resolve env).value.humanText_eq
  · have hfail : ∀ args command, Request.ofArguments? args = some (.run command) →
        command.config? = some path →
        run platform args vars files =
          ⟨1, [], Text.lines (configErrorText platform path e), files⟩ :=
      fun args command hargs hconfig =>
        (run_of_command hargs).trans (Command.run_of_error hconfig he vars)
    have hrendered : rendered = _ := hfail renderArgs _ hrender rfl
    have hexplained : explained = _ := hfail explainArgs _ hexplain rfl
    have htold : told = _ := hfail humanArgs _ hhuman rfl
    rw [hrendered, hexplained, htold]
    exact ⟨⟨rfl, rfl⟩, ⟨rfl, rfl⟩, nofun⟩

/-- A default from an overrides file, a value with quotes, newlines, a backslash and a control
character, a variable that is not recognized and one that is not UTF-8. -/
theorem explain_agrees_with_render_standard :
    let files : Files := [("o.toml", .ofText "base = [[\"theme\", \"dark\"]]")]
    let vars : List RawVariable := [(Text.Utf8.encode "URL", Text.Utf8.encode "\"\n\\\x01"),
      ([0xFF], []), (Text.Utf8.encode "HOME", Text.Utf8.encode "/root"),
      (Text.Utf8.encode "API_URL", [])]
    let platform : Platform := .plain .done
    let rendered := run platform ["render", "--base", "-c", "o.toml"] vars files
    let explained := run platform ["explain", "--base", "-c", "o.toml"] vars files
    let told := run platform ["explain", "--human", "--config=o.toml", "--base"] vars files
    rendered.exit = 0 ∧ explained.stderr = rendered.stderr ∧ told.stderr = rendered.stderr ∧
      ∃ (fragment text front : Text) (entries : List Json),
        rendered.stdout = fragment ++ "\n" ∧ explained.stdout = text ++ "\n" ∧
        Json.read? text = some (.object [("fragment", .string fragment),
          ("entries", .array entries), ("ignored", .number 1)]) ∧
        entries.length = 2 ∧ told.stdout = front ++ "\n" ++ "\n" ++ rendered.stdout := by
  intro files vars platform rendered explained told
  let options : Options := Overrides.apply ⟨[], [("theme", ⟨"dark", .string⟩)]⟩
    { Options.standard with seed := true }
  have hload : Overrides.load (files.look "o.toml") = .ok ⟨[], [("theme", ⟨"dark", .string⟩)]⟩ := by
    decide +kernel
  have hoptions : loadOptions files (some "o.toml") true = .ok options := by
    simp only [loadOptions, hload]
    rfl
  have hexit : rendered.exit = 0 := by decide +kernel
  obtain ⟨-, ⟨hexplained, htold⟩, hprinted⟩ :=
    explain_agrees_with_render platform ["render", "--base", "-c", "o.toml"]
      ["explain", "--base", "-c", "o.toml"] ["explain", "--human", "--config=o.toml", "--base"]
      vars files true (some "o.toml") (by decide +kernel) (by decide +kernel) (by decide +kernel)
  obtain ⟨loaded, fragment, text, front, entries, hloaded, hrender, hexplain, hread, hentries,
    hhuman⟩ := hprinted hexit
  obtain rfl : options = loaded := Except.ok.inj (hoptions.symm.trans hloaded)
  have hignored : ((vars.filterMap RawVariable.decode?).countP fun v =>
      (options.vocabulary.get? v.1).isNone) = 1 := by
    decide +kernel
  rw [hignored] at hread
  have hlength := congrArg List.length hentries
  rw [List.length_map] at hlength
  refine ⟨hexit, hexplained, htold, fragment, text, front, entries, hrender, hexplain, hread,
    hlength.trans ?_, hhuman⟩
  decide +kernel

end Cli

end UiBootstrap

import UiBootstrap.Proofs.Injection

/-!
# Injecting into what an injection has written

A container that starts again finds the template as its last start left it. An injection keeps what
stands before the start marker, so the next one finds that marker at the same place and the same
margin; and the end marker is found behind the script, unless the script holds one itself
(`Region.exists_find?_fill`). So the script of an earlier injection leaves nothing behind exactly if
the end marker does not occur in it (`Options.reinjection_law`).
-/

namespace UiBootstrap

variable {template script : Text} {region again : Region}

namespace Region

/-- What stands between the markers after an injection. -/
def filling (region : Region) (script : Text) : Text :=
  '\n' :: Text.withMargin region.margin 0 script ++ '\n' :: region.margin

/-- A filled region keeps its surroundings and its markers. -/
theorem fill_eq (region : Region) (script : Text) : region.fill script =
    region.before ++ startMarker ++ (region.filling script ++ endMarker ++ region.after) := by
  simp [fill, filling]

/-- A margin is nothing but white space. -/
theorem allBlank_margin (region : Region) : Text.allBlank region.margin = true := by
  rw [margin]
  split
  · next h => exact h
  · rfl

/-- Behind the start marker of a filled region, the end marker occurs too early exactly if it occurs
in the script: the newlines and the margins around it make none. -/
theorem infix_filling_iff (region : Region) (script : Text) :
    endMarker <:+: region.filling script ++ endMarker.dropLast ↔ endMarker <:+: script := by
  have hmargin := region.allBlank_margin
  have hself : ¬ endMarker <:+: endMarker.dropLast := fun h => absurd h.length_le (by decide)
  have hsplit : region.filling script ++ endMarker.dropLast =
      ([] ++ '\n' :: Text.withMargin region.margin 0 script) ++
        '\n' :: (region.margin ++ endMarker.dropLast) := by
    simp [filling]
  rw [hsplit, Text.infix_append_cons_iff endMarker_isMark.newline,
    Text.infix_append_cons_iff endMarker_isMark.newline,
    Text.infix_margin_append_iff endMarker_isMark hmargin,
    Text.infix_withMargin_iff endMarker_isMark hmargin]
  simp [hself, endMarker_isMark.ne_nil]

/-- **A filled region is found again.** It starts at the same place, and what stands behind it is
the same exactly if the end marker does not occur in the script. -/
theorem exists_find?_fill (h : find? template = some region) (script : Text) :
    ∃ again, find? (region.fill script) = some again ∧ again.before = region.before ∧
      (again.after = region.after ↔ ¬ endMarker <:+: script) := by
  obtain ⟨-, hfirst, -⟩ := find?_eq_some_iff.1 h
  have hne := endMarker_isMark.ne_nil
  cases hend : Text.splitFirst? endMarker (region.filling script ++ endMarker ++ region.after) with
  | none =>
    exact absurd (List.infix_append _ _ _) ((Text.splitFirst?_eq_none_iff hne).1 hend)
  | some cut =>
    obtain ⟨inside, after⟩ := cut
    obtain ⟨hcut, hfirst'⟩ := (Text.splitFirst?_eq_some_iff hne).1 hend
    refine ⟨⟨region.before, inside, after⟩,
      find?_eq_some_iff.2 ⟨?_, hfirst, hfirst'⟩, rfl, fun hafter => ?_, fun hscript => ?_⟩
    · rw [fill_eq, hcut]
    · obtain rfl : after = region.after := hafter
      rw [List.append_left_inj, List.append_left_inj] at hcut
      rwa [← hcut, infix_filling_iff] at hfirst'
    · rw [← infix_filling_iff region] at hscript
      have hearly : Text.splitFirst? endMarker _ = some (region.filling script, region.after) :=
        (Text.splitFirst?_eq_some_iff hne).2 ⟨rfl, hscript⟩
      exact (Prod.mk.inj (Option.some.inj (hend.symm.trans hearly))).2

/-- Regions that start at the same place are filled alike exactly if the same stands behind them. -/
theorem fill_eq_fill_iff (hbefore : again.before = region.before) :
    again.fill script = region.fill script ↔ again.after = region.after := by
  have hmargin : again.margin = region.margin := by rw [margin, margin, hbefore]
  have hfilling : again.filling script = region.filling script := by
    rw [filling, filling, hmargin]
  rw [fill_eq, fill_eq, hbefore, hfilling, List.append_right_inj, List.append_right_inj]

end Region

namespace Options

variable {options first second : Options} {env : Environment} {text : Text}

/-- **One injection into what another has written.** It succeeds, and writes what it writes into the
original template exactly if the end marker does not occur in the earlier script. -/
theorem inject_inject (h : (first.inject template env).value = .ok text) (second : Options)
    (env' : Environment) : ∃ later fresh, (second.inject text env').value = .ok later ∧
      (second.inject template env').value = .ok fresh ∧
      (second.inject text env').events = (second.inject template env').events ∧
      (later = fresh ↔ ¬ endMarker <:+: (first.script env).value) := by
  obtain ⟨region, hregion, rfl⟩ := inject_eq_ok_iff.1 h
  obtain ⟨again, hagain, hbefore, hafter⟩ :=
    Region.exists_find?_fill hregion (first.script env).value
  have hlater : (second.inject (region.fill (first.script env).value) env').value =
      .ok (again.fill (second.script env').value) := inject_eq_ok_iff.2 ⟨again, hagain, rfl⟩
  have hfresh : (second.inject template env').value =
      .ok (region.fill (second.script env').value) := inject_eq_ok_iff.2 ⟨region, hregion, rfl⟩
  refine ⟨_, _, hlater, hfresh, ?_, (Region.fill_eq_fill_iff hbefore).trans hafter⟩
  rw [events_inject_of_ok hlater, events_inject_of_ok hfresh]

/-- A template after a sequence of injections, or the reason why one of them failed. -/
def injectAll (template : Text) (runs : List (Options × Environment)) :
    Except InjectionError Text :=
  runs.foldlM (fun text (options, env) => (options.inject text env).value) template

/-- The first injection of a sequence decides what the others are injected into. -/
theorem injectAll_cons (run : Options × Environment) (runs : List (Options × Environment)) :
    injectAll template (run :: runs) =
      (run.1.inject template run.2).value >>= fun text => injectAll text runs :=
  List.foldlM_cons

/-- One injection alone. -/
theorem injectAll_singleton (run : Options × Environment) :
    injectAll template [run] = (run.1.inject template run.2).value := by
  rw [injectAll_cons]
  exact bind_pure _

/-- An injection in front of another one leaves nothing behind if the end marker does not occur in
its script. -/
theorem injectAll_pair {run last : Options × Environment}
    (h : ¬ endMarker <:+: (run.1.script run.2).value) :
    injectAll template [run, last] = injectAll template [last] := by
  rw [injectAll_cons, injectAll_singleton]
  cases hrun : (run.1.inject template run.2).value with
  | error e =>
    obtain ⟨hnone, rfl⟩ := inject_eq_error_iff.1 hrun
    exact (inject_eq_error_iff.2 ⟨hnone, rfl⟩).symm
  | ok text =>
    obtain ⟨later, fresh, hlater, hfresh, -, hsame⟩ := inject_inject hrun last.1 last.2
    change injectAll text [last] = _
    rw [injectAll_singleton, hlater, hfresh, hsame.2 h]

/-- **Only the last injection of a sequence shows**, if the end marker does not occur in the scripts
of the others. -/
theorem injectAll_concat {runs : List (Options × Environment)} (last : Options × Environment)
    (h : ∀ run ∈ runs, ¬ endMarker <:+: (run.1.script run.2).value) :
    injectAll template (runs ++ [last]) = injectAll template [last] := by
  induction runs generalizing template with
  | nil => rfl
  | cons run runs ih =>
    have hruns : ∀ text, injectAll text (runs ++ [last]) = injectAll text [last] :=
      fun text => ih fun r hr => h r (List.mem_cons_of_mem _ hr)
    rw [List.cons_append, injectAll_cons]
    simp only [hruns]
    rw [← injectAll_cons, injectAll_pair (h run List.mem_cons_self)]

/-- **Injecting again.** An injection into what an earlier one has written succeeds, with the same
events as one into the original template. The two write the same text exactly if the end marker does
not occur in the earlier script. So a second injection of one environment changes nothing exactly if
the end marker does not occur in its script, and of a sequence of injections into whose scripts the
marker does not get, only the last shows: what it comes to is what the last one comes to alone. -/
theorem reinjection_law (template : Text) :
    (∀ (first second : Options) (env env' : Environment) (text : Text),
      (first.inject template env).value = .ok text →
      ∃ later fresh, (second.inject text env').value = .ok later ∧
        (second.inject template env').value = .ok fresh ∧
        (second.inject text env').events = (second.inject template env').events ∧
        (later = fresh ↔ ¬ endMarker <:+: (first.script env).value)) ∧
    (∀ (options : Options) (env : Environment) (text : Text),
      (options.inject template env).value = .ok text →
      ∃ later, (options.inject text env).value = .ok later ∧
        (options.inject text env).events = (options.inject template env).events ∧
        (later = text ↔ ¬ endMarker <:+: (options.script env).value)) ∧
    ∀ (runs : List (Options × Environment)) (last : Options) (env : Environment),
      (∀ run ∈ runs, ¬ endMarker <:+: (run.1.script run.2).value) →
      injectAll template (runs ++ [(last, env)]) = (last.inject template env).value := by
  refine ⟨fun first second env env' text h => inject_inject h second env',
    fun options env text h => ?_, fun runs last env h => ?_⟩
  · obtain ⟨later, fresh, hlater, hfresh, hevents, hsame⟩ := inject_inject h options env
    obtain rfl : text = fresh := Except.ok.inj (h.symm.trans hfresh)
    exact ⟨later, hlater, hevents, hsame⟩
  · rw [injectAll_concat (last, env) h, injectAll_singleton]

/-- A small template: only the last of three injections shows, and an environment that brings the
end marker along is injected differently the second time. -/
theorem reinjection_law_standard :
    let region : Region := ⟨"<script>\n  ", "\n", "\n</script>"⟩
    let template : Text :=
      region.before ++ startMarker ++ region.inside ++ endMarker ++ region.after
    let run : Options × Environment := (.standard, [("URL", "/a")])
    let env : Environment := [("URL", endMarker)]
    injectAll template [run, run, (.standard, [])] =
        .ok ("<script>\n  " ++ startMarker ++ "\n  window.ui = SwaggerUIBundle(\x7b\n  \x7d)\n  " ++
          endMarker ++ "\n</script>") ∧
      ∃ text later, (Options.standard.inject template env).value = .ok text ∧
        (Options.standard.inject text env).value = .ok later ∧ later ≠ text := by
  intro region template run env
  obtain ⟨-, htwice, hlast⟩ := reinjection_law template
  constructor
  · have h : ∀ r ∈ [run, run], ¬ endMarker <:+: (r.1.script r.2).value := by decide +kernel
    refine (hlast [run, run] .standard [] h).trans ?_
    decide +kernel
  · have hregion : Region.find? template = some region := by decide +kernel
    have htext : (Options.standard.inject template env).value =
        .ok (region.fill (Options.standard.script env).value) :=
      inject_eq_ok_iff.2 ⟨region, hregion, rfl⟩
    have hmark : endMarker <:+: (Options.standard.script env).value := by decide +kernel
    obtain ⟨later, hlater, -, hiff⟩ := htwice .standard env _ htext
    exact ⟨_, later, htext, hlater, fun heq => hiff.1 heq hmark⟩

end Options

end UiBootstrap

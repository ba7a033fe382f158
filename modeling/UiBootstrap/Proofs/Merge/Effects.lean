import UiBootstrap.Session
import UiBootstrap.Proofs.Injection
import UiBootstrap.Proofs.Merge.Trace
import UiBootstrap.Proofs.Utf8

/-!
# What the outside world is told, variable by variable

An environment is told of in its order: of a variable that is not recognized nothing is said, and of
any other that it was found, if it has a hook, and then that it lost, if it did. What that looks
like from outside is said apart from the merge (`Vocabulary.IsToldBy`), down to the level, the
message and the fields of the log entries. The events of an environment are such a telling of it and
its trace (`Vocabulary.isToldBy_merge`), and what follows for a telling is shown from that alone:
there is one call of a hook for each time a variable with a hook stands in the environment, whether
or not it wins, and one note for each entry of the trace that is superseded. `Options.event_law`
goes on to the scripts and the injections that are made from environments.
-/

namespace UiBootstrap

variable {vocabulary : Vocabulary} {name key message : Text} {hook : Option Hook}
  {outcome : Outcome} {env : Environment} {trace : List TraceEntry} {event : Event}
  {events : List Event}

/-- What is told of a variable with this name that was found, by its hook: a warning is logged with
the hook's message and the name, or the caller's own hook is called with the name, and nothing is
logged then. -/
inductive Hook.IsToldBy (name : Text) : Option Hook → List Event → Prop
  | none : IsToldBy name none []
  | warn {message : Text} {event : Event}
      (hentry : event.logEntry? = some ⟨.warn, message, [("variable", name)], true⟩) :
      IsToldBy name (some (.warn message)) [event]
  | notify {event : Event} (hcall : event = .notified name) (hsilent : event.logEntry? = none) :
      IsToldBy name (some .notify) [event]

/-- What is told of a variable of which this became: that it lost, with its name and its key, in a
debugging entry of the log, and nothing otherwise. -/
inductive Outcome.IsToldBy (name key : Text) : Outcome → List Event → Prop
  | inserted : IsToldBy name key .inserted []
  | replaced (previousDefault : Bool) : IsToldBy name key (.replaced previousDefault) []
  | superseded {event : Event}
      (hentry : event.logEntry? = some ⟨.debug, "legacy variable superseded by existing value",
        [("variable", name), ("key", key)], true⟩) :
      IsToldBy name key .superseded [event]

/-- **What is told of an environment with its trace**, one variable after the other. Only a
recognized variable has an entry in the trace. -/
inductive Vocabulary.IsToldBy (vocabulary : Vocabulary) :
    Environment → List TraceEntry → List Event → Prop
  | nil : IsToldBy vocabulary [] [] []
  | unrecognized {name value : Text} {env : Environment} {trace : List TraceEntry}
      {events : List Event} (h : vocabulary.get? name = none)
      (hrest : IsToldBy vocabulary env trace events) :
      IsToldBy vocabulary ((name, value) :: env) trace events
  | recognized {name value : Text} {schema : VarSchema} {outcome : Outcome} {env : Environment}
      {trace : List TraceEntry} {found noted events : List Event}
      (h : vocabulary.get? name = some schema) (hfound : Hook.IsToldBy name schema.onFound found)
      (hnoted : outcome.IsToldBy name schema.key noted)
      (hrest : IsToldBy vocabulary env trace events) :
      IsToldBy vocabulary ((name, value) :: env) (⟨name, schema.key, outcome⟩ :: trace)
        (found ++ noted ++ events)

/-- The call of a hook that an event is: of whose variable, and of which hook. -/
def Event.call? : Event → Option (Text × Hook)
  | .warned name message => some (name, .warn message)
  | .notified name => some (name, .notify)
  | _ => none

/-- The name and the key of a legacy alias of which an event says that it lost. -/
def Event.loser? : Event → Option (Text × Text)
  | .superseded name key => some (name, key)
  | _ => none

/-! ## One variable -/

/-- No other event is logged as a warning. -/
theorem Event.eq_warned
    (h : event.logEntry? = some ⟨.warn, message, [("variable", name)], true⟩) :
    event = .warned name message := by
  cases event with
  | warned name' message' =>
    simp only [Event.logEntry?, Option.some.injEq, LogEntry.mk.injEq, List.cons.injEq,
      Prod.mk.injEq] at h
    rw [h.2.1, h.2.2.1.1.2]
  | notified _ | superseded _ _ | unreadable _ | injected _ | regionMissing _ => cases h

/-- No other event is logged as the note that a variable lost. -/
theorem Event.eq_superseded
    (h : event.logEntry? = some ⟨.debug, "legacy variable superseded by existing value",
      [("variable", name), ("key", key)], true⟩) :
    event = .superseded name key := by
  -- The level and the number of fields are enough to tell the event from the others.
  have hshape := congrArg (Option.map fun entry => (entry.level, entry.fields.length)) h
  cases event with
  | superseded name' key' =>
    simp only [Event.logEntry?, Option.some.injEq, LogEntry.mk.injEq, List.cons.injEq,
      Prod.mk.injEq] at h
    rw [h.2.2.1.1.2, h.2.2.1.2.1.2]
  | warned _ _ | notified _ | unreadable _ | injected _ | regionMissing _ => cases hshape

namespace Hook.IsToldBy

/-- The call of a hook is told. -/
theorem filterMap_call? (h : Hook.IsToldBy name hook events) :
    events.filterMap Event.call? = (hook.map fun hook => (name, hook)).toList := by
  cases h with
  | none => rfl
  | warn hentry =>
    rw [Event.eq_warned hentry]
    rfl
  | notify hcall _ =>
    rw [hcall]
    rfl

/-- That it was found does not say that a variable lost. -/
theorem filterMap_loser? (h : Hook.IsToldBy name hook events) :
    events.filterMap Event.loser? = [] := by
  cases h with
  | none => rfl
  | warn hentry =>
    rw [Event.eq_warned hentry]
    rfl
  | notify hcall _ =>
    rw [hcall]
    rfl

end Hook.IsToldBy

namespace Outcome.IsToldBy

/-- What became of a variable is told without a call of its hook. -/
theorem filterMap_call? (h : outcome.IsToldBy name key events) :
    events.filterMap Event.call? = [] := by
  cases h with
  | inserted | replaced _ => rfl
  | superseded hentry =>
    rw [Event.eq_superseded hentry]
    rfl

/-- That a variable lost is told if it did. -/
theorem filterMap_loser? (h : outcome.IsToldBy name key events) :
    events.filterMap Event.loser? = if outcome = .superseded then [(name, key)] else [] := by
  cases h with
  | inserted | replaced _ => rfl
  | superseded hentry =>
    rw [Event.eq_superseded hentry]
    rfl

end Outcome.IsToldBy

/-! ## An environment -/

namespace Vocabulary

/-- The events of one variable tell of it. -/
theorem IsToldBy.cons {schema : VarSchema} (h : vocabulary.get? name = some schema)
    (value : Text) (outcome : Outcome) (hrest : vocabulary.IsToldBy env trace events) :
    vocabulary.IsToldBy ((name, value) :: env) (⟨name, schema.key, outcome⟩ :: trace)
      (TraceEntry.events ⟨name, schema.key, outcome⟩ schema ++ events) := by
  refine .recognized h ?_ ?_ hrest
  · cases schema.onFound with
    | none => exact .none
    | some hook =>
      cases hook with
      | warn message => exact .warn rfl
      | notify => exact .notify rfl rfl
  · cases outcome with
    | inserted => exact .inserted
    | replaced previousDefault => exact .replaced previousDefault
    | superseded => exact .superseded rfl

/-- **The events of an environment tell of it**, with its trace. -/
theorem isToldBy_merge (start : Listing) (vocabulary : Vocabulary) (env : Environment) :
    vocabulary.IsToldBy env (vocabulary.merge start env).trace
      (vocabulary.merge start env).events := by
  induction env generalizing start with
  | nil => exact .nil
  | cons v env ih =>
    obtain ⟨name, value⟩ := v
    cases h : vocabulary.get? name with
    | none =>
      simp only [Vocabulary.merge, h]
      exact .unrecognized h (ih start)
    | some schema =>
      simp only [Vocabulary.merge, h]
      exact .cons h value _ (ih _)

namespace IsToldBy

/-- The trace has an entry for each recognized variable, in the order of the environment. -/
theorem map_name_trace (h : vocabulary.IsToldBy env trace events) :
    trace.map (fun t => (t.name, t.key)) =
      env.filterMap fun v => (vocabulary.get? v.1).map fun schema => (v.1, schema.key) := by
  induction h with
  | nil => rfl
  | unrecognized h _ ih => rw [ih, List.filterMap_cons, h, Option.map_none]
  | recognized h _ _ _ ih => rw [List.map_cons, ih, List.filterMap_cons, h, Option.map_some]

/-- **Hooks are called once for each time their variable stands in the environment.** -/
theorem filterMap_call? (h : vocabulary.IsToldBy env trace events) :
    events.filterMap Event.call? = env.filterMap fun v =>
      (vocabulary.get? v.1).bind fun schema => schema.onFound.map fun hook => (v.1, hook) := by
  induction h with
  | nil => rfl
  | unrecognized h _ ih => rw [ih, List.filterMap_cons, h, Option.bind_none]
  | @recognized name value schema outcome env trace found noted events h hfound hnoted _ ih =>
    rw [List.filterMap_append, List.filterMap_append, hfound.filterMap_call?,
      hnoted.filterMap_call?, List.append_nil, ih, List.filterMap_cons, h, Option.bind_some]
    cases schema.onFound <;> rfl

/-- **Those that lost are noted as the trace has them.** -/
theorem filterMap_loser? (h : vocabulary.IsToldBy env trace events) :
    events.filterMap Event.loser? =
      (trace.filter fun t => t.outcome = .superseded).map fun t => (t.name, t.key) := by
  induction h with
  | nil => rfl
  | unrecognized _ _ ih => exact ih
  | @recognized name value schema outcome env trace found noted events _ hfound hnoted _ ih =>
    rw [List.filterMap_append, List.filterMap_append, hfound.filterMap_loser?, List.nil_append,
      hnoted.filterMap_loser?, ih, List.filter_cons]
    cases outcome <;> rfl

end IsToldBy

end Vocabulary

namespace Options

/-! ## The law -/

/-- **The law of events.** What the outside world is told when an environment is resolved is what is
told of its variables, one after the other: nothing of one that is not recognized; of any other that
it was found, if it has a hook, once and by its name, and then that it lost, with its key, if it is
superseded. The trace, which has an entry for each recognized variable in order, says which are. So
the calls of hooks are those of the variables with hooks in the environment, as often as they stand
there, whether or not they win; those noted to have lost are the superseded entries of the trace, in
order. A script leads to the events of the environment under the options and then under those for
authorization. An injection leads to those of the script if there is a call region, and to none if
there is not, in a held template and in a file alike: into a file that has been read, it leads to
the same events whatever becomes of the file when it is written. -/
theorem event_law (options : Options) (env : Environment) :
    let resolved := options.resolve env
    let trace := resolved.value.trace
    options.vocabulary.IsToldBy env trace resolved.events ∧
      trace.map (fun t => (t.name, t.key)) = env.filterMap (fun v =>
        (options.vocabulary.get? v.1).map fun schema => (v.1, schema.key)) ∧
      resolved.events.filterMap Event.call? = env.filterMap (fun v =>
        (options.vocabulary.get? v.1).bind fun schema =>
          schema.onFound.map fun hook => (v.1, hook)) ∧
      resolved.events.filterMap Event.loser? =
        (trace.filter fun t => t.outcome = .superseded).map (fun t => (t.name, t.key)) ∧
      (options.script env).events = resolved.events ++ (oauth.resolve env).events ∧
      (∀ template : Text,
        (∀ text, (options.inject template env).value = .ok text →
          (options.inject template env).events = (options.script env).events) ∧
        ((options.inject template env).value = .error .regionMissing →
          (options.inject template env).events = []) ∧
        (Session.step ⟨options, template⟩ (.inject env)).2.events =
          (options.inject template env).events) ∧
      ∀ (write : List UInt8 → WriteOutcome) (file : FileState),
        (∀ template, file.readText = .ok template →
          (options.injectIntoFile write file env).events =
            (options.inject template env).events) ∧
        ∀ reason, file.readText = .error reason →
          (options.injectIntoFile write file env).events = [] := by
  intro resolved trace
  have htold : options.vocabulary.IsToldBy env trace resolved.events :=
    Vocabulary.isToldBy_merge options.start options.vocabulary env
  refine ⟨htold, htold.map_name_trace, htold.filterMap_call?, htold.filterMap_loser?, rfl,
    fun template => ⟨fun text => events_inject_of_ok, events_inject_of_error, ?_⟩,
    fun write file => ⟨fun template hread => ?_, fun reason hread => ?_⟩⟩
  · rw [Session.step]
    cases (options.inject template env).value <;> rfl
  · rw [injectIntoFile, hread]
    cases h : (options.inject template env).value <;> simp only [h]
  · rw [injectIntoFile_of_unreadable hread]

/-- A legacy alias with a warning that stands there twice, once before the current name and once
behind it, a variable with a hook of the caller's, and others between them that are not recognized
in the built-in tables; one is for authorization. -/
theorem event_law_standard :
    let filter : VarSchema := { key := "filter", onFound := some .notify }
    let options : Options := { standard with vocabulary := .insert .standard "FILTER" filter }
    let env : Environment := [("API_URL", "/a"), ("HOME", "/root"), ("URL", "/b"),
      ("API_URL", "/c"), ("FILTER", "f"), ("OAUTH_CLIENT_SECRET", "s")]
    let events := (options.resolve env).events
    options.vocabulary.IsToldBy env (options.resolve env).value.trace events ∧
      (events.filterMap Event.call?).map Prod.fst =
        (["API_URL", "API_URL", "FILTER"] : List Text) ∧
      events.filterMap Event.loser? = [(("API_URL" : Text), ("url" : Text))] ∧
      (options.inject (startMarker ++ endMarker) env).events =
        events ++ (oauth.resolve env).events ∧
      (options.inject (endMarker ++ startMarker) env).events = [] ∧
      (options.injectIntoFile (fun _ => .refused "Read-only file system (os error 30)")
        (.ofText (startMarker ++ endMarker)) env).events =
        events ++ (oauth.resolve env).events := by
  intro filter options env events
  obtain ⟨htold, -, hcalls, hlosers, hscript, hinject, hfile⟩ := event_law options env
  have hregion : Region.find? (startMarker ++ endMarker) = some ⟨[], [], []⟩ := by decide +kernel
  have hnone : Region.find? (endMarker ++ startMarker) = none := by decide +kernel
  have htext : (options.inject (startMarker ++ endMarker) env).events = events ++
      (oauth.resolve env).events :=
    ((hinject _).1 _ (inject_eq_ok_iff.2 ⟨_, hregion, rfl⟩)).trans hscript
  refine ⟨htold, ?_, ?_, htext, (hinject _).2.1 (inject_eq_error_iff.2 ⟨hnone, rfl⟩), ?_⟩
  · rw [hcalls]
    decide +kernel
  · rw [hlosers]
    decide +kernel
  · exact ((hfile _ _).1 _ (FileState.readText_ofText _)).trans htext

end Options

end UiBootstrap

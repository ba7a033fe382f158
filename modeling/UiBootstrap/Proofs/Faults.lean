import UiBootstrap.Proofs.OverridesText
import UiBootstrap.Proofs.Utf8

/-!
# Which fault is reported

Of all that is empty in an overrides file only one thing is reported, and which one depends on what
the file says and not on how it is written (`Overrides.Reports`): a variable without a name comes
first, then the variable that sets the empty key and has the first name in the order of bytes, then
the first default with the empty key. The search for a fault finds just this one, because the
variables of a file stand in the order of their names (`Overrides.fault?_eq_some_iff`), and its
wording tells which it is (`OverridesFault.message_injective`). `Overrides.validation_exact` says
what follows for a document.
-/

namespace UiBootstrap

open Toml (Spelling Value)

/-! ## Texts -/

variable {before t after : Text} {c : Char}

/-- A text that is in order before the empty one is empty. -/
theorem Text.eq_nil_of_le_nil (h : le t [] = true) : t = [] := by
  cases t with
  | nil => rfl
  | cons c t => cases h

/-- The digits of a number tell which it is. -/
theorem Text.decimal_injective : Function.Injective Text.decimal := fun m n h =>
  calc m = Nat.ofDigitChars 10 (decimal m) 0 := Nat.ofDigitChars_ten_toDigits.symm
    _ = Nat.ofDigitChars 10 (decimal n) 0 := by rw [h]
    _ = n := Nat.ofDigitChars_ten_toDigits

/-- A text starts with the first character of what stands before another. -/
theorem Text.head?_framed (h : before.head? = some c) : (before ++ t ++ after).head? = some c := by
  rw [List.append_assoc, List.head?_append, h, Option.some_or]

/-- A text ends with the last character of what stands behind another. -/
theorem Text.getLast?_framed (h : after.getLast? = some c) :
    (before ++ t ++ after).getLast? = some c := by
  rw [List.getLast?_append, h, Option.some_or]

/-! ## Wording -/

namespace OverridesFault

/-- The letter with which the wording of a fault starts. -/
theorem head?_message (fault : OverridesFault) : fault.message.head? =
    match fault with
    | .emptyVariable | .emptyKey _ => some 'v'
    | .emptyDefaultKey _ => some 'b' := by
  cases fault with
  | emptyVariable => decide +kernel
  | emptyKey name => exact Text.head?_framed (by decide +kernel)
  | emptyDefaultKey position => exact Text.head?_framed (by decide +kernel)

/-- The letter with which the wording of a fault ends. -/
theorem getLast?_message (fault : OverridesFault) : fault.message.getLast? =
    match fault with
    | .emptyKey _ => some 'e'
    | .emptyVariable | .emptyDefaultKey _ => some 'y' := by
  cases fault with
  | emptyVariable => decide +kernel
  | emptyKey name => exact Text.getLast?_framed (by decide +kernel)
  | emptyDefaultKey position => exact Text.getLast?_framed (by decide +kernel)

/-- **The wording of a fault tells which it is.** -/
theorem message_injective : Function.Injective message := by
  intro fault fault' h
  -- The first letter and the last one tell what kind of fault it is.
  have hhead := congrArg List.head? h
  have hlast := congrArg List.getLast? h
  rw [head?_message, head?_message] at hhead
  rw [getLast?_message, getLast?_message] at hlast
  cases fault with
  | emptyVariable =>
    cases fault' with
    | emptyVariable => rfl
    | emptyKey name => cases hlast
    | emptyDefaultKey position => cases hhead
  | emptyKey name =>
    cases fault' with
    | emptyVariable => cases hlast
    | emptyKey name' =>
      have hname : name = name' := List.append_cancel_left (List.append_cancel_right h)
      rw [hname]
    | emptyDefaultKey position => cases hhead
  | emptyDefaultKey position =>
    cases fault' with
    | emptyVariable => cases hhead
    | emptyKey name => cases hhead
    | emptyDefaultKey position' =>
      have hdecimal : Text.decimal position = Text.decimal position' :=
        List.append_cancel_left (List.append_cancel_right h)
      rw [Text.decimal_injective hdecimal]

end OverridesFault

namespace Overrides

variable {file file' : Overrides} {fault : OverridesFault} {name text : Text}
  {v : VariableDefinition} {values values' : Keyed Value}

/-! ## The fault to be reported -/

/-- The fault that is to be reported of a file: that a variable has no name, whatever else is wrong;
else that a variable sets the empty key, and of these the one with the first name in the order of
bytes; else that a default has the empty key, and of these the first. -/
def Reports (file : Overrides) : OverridesFault → Prop
  | .emptyVariable => ∃ p ∈ file.definitions, p.1 = []
  | .emptyKey name => (∀ p ∈ file.definitions, p.1 ≠ []) ∧
    (∃ v, (name, v) ∈ file.definitions ∧ v.key = []) ∧
    ∀ p ∈ file.definitions, p.2.key = [] → Text.Utf8.encode name ≤ Text.Utf8.encode p.1
  | .emptyDefaultKey position => (∀ p ∈ file.definitions, p.1 ≠ [] ∧ p.2.key ≠ []) ∧
    (∃ s, file.defaults[position]? = some ([], s)) ∧
    ∀ i < position, ∀ s, file.defaults[i]? ≠ some ([], s)

/-- Only one fault is to be reported. -/
theorem Reports.unique : ∀ {fault fault' : OverridesFault},
    file.Reports fault → file.Reports fault' → fault = fault'
  | .emptyVariable, .emptyVariable, _, _ => rfl
  | .emptyVariable, .emptyKey _, ⟨p, hp, hname⟩, h' => absurd hname (h'.1 p hp)
  | .emptyVariable, .emptyDefaultKey _, ⟨p, hp, hname⟩, h' => absurd hname (h'.1 p hp).1
  | .emptyKey _, .emptyVariable, h, ⟨p, hp, hname⟩ => absurd hname (h.1 p hp)
  | .emptyKey _, .emptyKey _, ⟨_, ⟨v, hv, hkey⟩, hleast⟩, ⟨_, ⟨v', hv', hkey'⟩, hleast'⟩ => by
    have hbytes := List.le_antisymm (hleast _ hv' hkey') (hleast' _ hv hkey)
    rw [Text.Utf8.encode_injective hbytes]
  | .emptyKey _, .emptyDefaultKey _, ⟨_, ⟨v, hv, hkey⟩, _⟩, h' => absurd hkey (h'.1 _ hv).2
  | .emptyDefaultKey _, .emptyVariable, h, ⟨p, hp, hname⟩ => absurd hname (h.1 p hp).1
  | .emptyDefaultKey _, .emptyKey _, h, ⟨_, ⟨v, hv, hkey⟩, _⟩ => absurd hkey (h.1 _ hv).2
  | .emptyDefaultKey i, .emptyDefaultKey j, ⟨_, ⟨s, hs⟩, hfirst⟩, ⟨_, ⟨s', hs'⟩, hfirst'⟩ => by
    rcases Nat.lt_trichotomy i j with hlt | rfl | hgt
    · exact absurd hs (hfirst' i hlt s)
    · rfl
    · exact absurd hs' (hfirst j hgt s')

/-- A file of which a fault is to be reported is not filled in. -/
theorem Reports.not_filled : ∀ {fault : OverridesFault}, file.Reports fault → ¬ file.Filled
  | .emptyVariable, ⟨p, hp, hname⟩, hfilled => (hfilled.definitions p hp).1 hname
  | .emptyKey _, ⟨_, ⟨_, hv, hkey⟩, _⟩, hfilled => (hfilled.definitions _ hv).2 hkey
  | .emptyDefaultKey _, ⟨_, ⟨_, hs⟩, _⟩, hfilled =>
    hfilled.defaults _ (List.mem_of_getElem? hs) rfl

/-- Which fault is to be reported does not depend on the order of the variables. -/
theorem Reports.congr (hdefinitions : ∀ p, p ∈ file.definitions ↔ p ∈ file'.definitions)
    (hdefaults : file.defaults = file'.defaults) : file.Reports fault ↔ file'.Reports fault := by
  cases fault <;> simp only [Reports, hdefinitions, hdefaults]

/-! ## The search -/

/-- The two faults that a variable can have. -/
theorem variableFault?_eq_some (h : variableFault? name v = some fault) :
    name = [] ∧ fault = .emptyVariable ∨ name ≠ [] ∧ v.key = [] ∧ fault = .emptyKey name := by
  rw [variableFault?] at h
  split at h
  · next hname => exact .inl ⟨List.isEmpty_iff.1 hname, (Option.some.inj h).symm⟩
  split at h
  · next hname hkey =>
    exact .inr ⟨by simpa using hname, List.isEmpty_iff.1 hkey, (Option.some.inj h).symm⟩
  · cases h

/-- The first fault of a variable is to be reported, if the variables stand in the order of their
names. -/
theorem reports_of_findSome? (hsorted : file.definitions.Pairwise fun v w => nameLe v w = true)
    (h : file.definitions.findSome? (fun p => variableFault? p.1 p.2) = some fault) :
    file.Reports fault := by
  obtain ⟨before, p, behind, hsplit, hp, hbefore⟩ := List.findSome?_eq_some_iff.1 h
  have hmem : p ∈ file.definitions := hsplit ▸ List.mem_append_right _ List.mem_cons_self
  rcases variableFault?_eq_some hp with ⟨hname, rfl⟩ | ⟨hname, hkey, rfl⟩
  · exact ⟨p, hmem, hname⟩
  -- Before `p` nothing is wrong, and behind it no name comes before that of `p`.
  have hcases : ∀ q ∈ file.definitions, (q.1 ≠ [] ∧ q.2.key ≠ []) ∨ Text.le p.1 q.1 = true := by
    intro q hq
    rw [hsplit] at hq hsorted
    rcases List.mem_append.1 hq with hq | hq
    · exact .inl (variableFault?_eq_none_iff.1 (hbefore q hq))
    rcases List.mem_cons.1 hq with rfl | hq
    · exact .inr ((Text.le_total q.1 q.1).elim id id)
    · have hpairs := (List.pairwise_append.1 hsorted).2.1
      exact .inr ((List.pairwise_cons.1 hpairs).1 q hq)
  refine ⟨fun q hq hempty => ?_, ⟨p.2, hmem, hkey⟩, fun q hq hqkey => ?_⟩
  · rcases hcases q hq with hfine | hle
    · exact hfine.1 hempty
    · exact hname (Text.eq_nil_of_le_nil (hempty ▸ hle))
  · rcases hcases q hq with hfine | hle
    · exact absurd hqkey hfine.2
    · exact Text.le_iff_encode_le.1 hle

/-- The first default with the empty key is to be reported, if no variable has a fault. -/
theorem reports_of_findIdx? {position : Nat}
    (hnone : file.definitions.findSome? (fun p => variableFault? p.1 p.2) = none)
    (h : file.defaults.findIdx? (fun p => p.1.isEmpty) = some position) :
    file.Reports (.emptyDefaultKey position) := by
  obtain ⟨hlt, hkey, hfirst⟩ := List.findIdx?_eq_some_iff_getElem.1 h
  refine ⟨fun p hp => variableFault?_eq_none_iff.1 (List.findSome?_eq_none_iff.1 hnone p hp),
    ⟨file.defaults[position].2, ?_⟩, fun i hi s hs => ?_⟩
  · rw [List.getElem?_eq_getElem hlt]
    exact congrArg some (Prod.ext (List.isEmpty_iff.1 hkey) rfl)
  · obtain ⟨hi', hget⟩ := List.getElem?_eq_some_iff.1 hs
    exact hfirst i hi (by rw [hget]; rfl)

/-- What the search finds is to be reported, if the variables stand in the order of their names. -/
theorem reports_of_fault? (hsorted : file.definitions.Pairwise fun v w => nameLe v w = true)
    (h : file.fault? = some fault) : file.Reports fault := by
  rw [fault?] at h
  split at h
  · next hfind =>
    cases h
    exact reports_of_findSome? hsorted hfind
  · next hnone =>
    obtain ⟨position, hfind, rfl⟩ := Option.map_eq_some_iff.1 h
    exact reports_of_findIdx? hnone hfind

/-- **The search finds the fault that is to be reported**, if the variables stand in the order of
their names. -/
theorem fault?_eq_some_iff (hsorted : file.definitions.Pairwise fun v w => nameLe v w = true) :
    file.fault? = some fault ↔ file.Reports fault := by
  refine ⟨reports_of_fault? hsorted, fun h => ?_⟩
  cases hfault : file.fault? with
  | none => exact absurd (fault?_eq_none_iff.1 hfault) h.not_filled
  | some fault' => rw [(reports_of_fault? hsorted hfault).unique h]

/-! ## Reading -/

/-- The contents of a document are its variables, sorted, and its defaults. -/
theorem ofToml?_eq_some_iff : ofToml? values = some file ↔
    ∃ definitions, Value.optional? Value.asDefinitions? [] (values.get? "variables") =
      some definitions ∧ ∃ defaults, Value.optional? Value.asSettings? [] (values.get? "base") =
      some defaults ∧ ⟨definitions.mergeSort nameLe, defaults⟩ = file := by
  simp only [ofToml?, Option.bind_eq_bind, Option.bind_eq_some_iff, Option.pure_def,
    Option.some.injEq]

/-- The variables of a file that has been read stand in the order of their names. -/
theorem pairwise_definitions_of_ofToml? (h : ofToml? values = some file) :
    file.definitions.Pairwise fun v w => nameLe v w = true := by
  obtain ⟨definitions, -, defaults, -, rfl⟩ := ofToml?_eq_some_iff.1 h
  exact pairwise_mergeSort definitions

/-- **The message on a text tells the fault that is to be reported**, and that there is one. -/
theorem mapError_parse_eq_error_iff (hread : (Toml.parse? text).bind ofToml? = some file)
    (complaint : Text → Text) {message : Text} :
    (parse text).mapError (OverridesError.message complaint) = .error message ↔
      ∃ fault, file.Reports fault ∧
        message = OverridesError.message complaint (.invalid fault) := by
  obtain ⟨values, -, hvalues⟩ := Option.bind_eq_some_iff.1 hread
  have hsorted := pairwise_definitions_of_ofToml? hvalues
  simp only [← fault?_eq_some_iff hsorted]
  rw [parse, hread]
  simp only [validate]
  cases hfault : file.fault? with
  | none =>
    constructor
    · intro h
      cases h
    · rintro ⟨fault, h, -⟩
      cases h
  | some fault =>
    constructor
    · intro h
      cases h
      exact ⟨fault, rfl, rfl⟩
    · rintro ⟨fault', h, rfl⟩
      cases h
      rfl

/-! ## Reordered documents -/

/-- Two documents with the same variables, in one order and in another, and with the same defaults
in the same order. -/
structure Reordered (values values' : Keyed Value) : Prop where
  definitions : values'.get? "variables" = values.get? "variables" ∨
    ∃ entries entries' : Keyed Value, entries.Perm entries' ∧
      values.get? "variables" = some (.table entries) ∧
      values'.get? "variables" = some (.table entries')
  defaults : values'.get? "base" = values.get? "base"

section Items

variable {α β : Type} {read : α → Option β} {a : α} {as as' : List α} {bs : List β}

/-- Of the same items in another order the same is read, in another order. -/
theorem mapM_perm (h : as.Perm as') (hread : as.mapM read = some bs) :
    ∃ bs', as'.mapM read = some bs' ∧ bs'.Perm bs := by
  induction h generalizing bs with
  | nil => exact ⟨bs, hread, .refl bs⟩
  | cons a _ ih =>
    obtain ⟨b, hb, bs, hbs, rfl⟩ := mapM_cons_eq_some_iff.1 hread
    obtain ⟨bs', hbs', hperm⟩ := ih hbs
    exact ⟨b :: bs', mapM_cons_eq_some_iff.2 ⟨b, hb, bs', hbs', rfl⟩, hperm.cons b⟩
  | swap a a' as =>
    obtain ⟨b', hb', _, htail, rfl⟩ := mapM_cons_eq_some_iff.1 hread
    obtain ⟨b, hb, bs, hbs, rfl⟩ := mapM_cons_eq_some_iff.1 htail
    have htail' : (a' :: as).mapM read = some (b' :: bs) :=
      mapM_cons_eq_some_iff.2 ⟨b', hb', bs, hbs, rfl⟩
    exact ⟨b :: b' :: bs, mapM_cons_eq_some_iff.2 ⟨b, hb, b' :: bs, htail', rfl⟩, .swap b' b bs⟩
  | trans _ _ ih ih' =>
    obtain ⟨bs', hbs', hperm⟩ := ih hread
    obtain ⟨bs'', hbs'', hperm'⟩ := ih' hbs'
    exact ⟨bs'', hbs'', hperm'.trans hperm⟩

end Items

/-- Reordered documents are read as files with the same variables and the same defaults. -/
theorem Reordered.exists_ofToml? (h : Reordered values values')
    (hread : ofToml? values = some file) : ∃ file', ofToml? values' = some file' ∧
      file'.definitions.Perm file.definitions ∧ file'.defaults = file.defaults := by
  obtain ⟨definitions, hdefinitions, defaults, hdefaults, rfl⟩ := ofToml?_eq_some_iff.1 hread
  simp only [ofToml?_eq_some_iff, h.defaults]
  rcases h.definitions with hsame | ⟨entries, entries', hperm, hvariables, hvariables'⟩
  · rw [hsame]
    exact ⟨_, ⟨definitions, hdefinitions, defaults, hdefaults, rfl⟩, .refl _, rfl⟩
  · rw [hvariables] at hdefinitions
    rw [hvariables']
    obtain ⟨definitions', hdefinitions', hpermRead⟩ := mapM_perm hperm hdefinitions
    refine ⟨_, ⟨definitions', hdefinitions', defaults, hdefaults, rfl⟩, ?_, rfl⟩
    have hsort := List.mergeSort_perm definitions nameLe
    have hsort' := List.mergeSort_perm definitions' nameLe
    exact (hsort'.trans hpermRead).trans hsort.symm

/-- Documents that write the same variables in another order are reordered. -/
theorem reordered_document (s : Spelling) {definitions definitions' : List VariableForm}
    (defaults : List DefaultForm) (hnd : (definitions.map VariableForm.name).Nodup)
    (hperm : definitions.Perm definitions') : ∃ values values' : Keyed Value,
    Toml.parse? (document s definitions defaults) = some values ∧
      Toml.parse? (document s definitions' defaults) = some values' ∧
      Reordered values values' := by
  have hnd' := (hperm.map VariableForm.name).nodup_iff.1 hnd
  obtain ⟨values, hparse, hvariables, hbase⟩ := parse?_document s definitions defaults hnd
  obtain ⟨values', hparse', hvariables', hbase'⟩ := parse?_document s definitions' defaults hnd'
  refine ⟨values, values', hparse, hparse', ?_, hbase'.trans hbase.symm⟩
  cases definitions with
  | nil =>
    cases hperm.nil_eq
    exact .inl (hvariables'.trans hvariables.symm)
  | cons f definitions =>
    cases definitions' with
    | nil => exact absurd hperm (List.not_perm_cons_nil)
    | cons f' definitions' => exact .inr ⟨_, _, (hperm.map _).map _, hvariables, hvariables'⟩

/-! ## The law -/

/-- **Validation is exact.** Let a document have the contents of a file. The variables of the file
stand in the order of the bytes of their names. The file is returned as it is exactly if no variable
has the empty name or sets the empty key and no default has the empty key. Else what is returned is
a validation error, and its message is on the one fault that is to be reported: on a variable
without a name if there is one, else on the first name in the order of bytes of a variable that sets
the empty key, else on the first default with the empty key. The order in which a document gives its
variables makes no difference to the message, nor does the way in which malformed documents are
complained about. -/
theorem validation_exact (complaint : Text → Text) (document : Text) (file : Overrides)
    (hread : (Toml.parse? document).bind ofToml? = some file) :
    (file.definitions.Pairwise fun p q => Text.Utf8.encode p.1 ≤ Text.Utf8.encode q.1) ∧
      (parse document = .ok file ↔
        (∀ p ∈ file.definitions, p.1 ≠ [] ∧ p.2.key ≠ []) ∧ ∀ p ∈ file.defaults, p.1 ≠ []) ∧
      (parse document = .ok file ∨ ∃ fault, parse document = .error (.invalid fault)) ∧
      (∀ fault : OverridesFault, (parse document).mapError (OverridesError.message complaint) =
        .error ("Validation error: " ++ fault.message) ↔ file.Reports fault) ∧
      ∀ (document' : Text) (values values' : Keyed Value), Toml.parse? document = some values →
        Toml.parse? document' = some values' → Reordered values values' → ∀ message : Text,
        (parse document').mapError (OverridesError.message complaint) = .error message ↔
          (parse document).mapError (OverridesError.message complaint) = .error message := by
  refine ⟨?_, ?_, ?_, fun fault => ?_, fun document' values values' ht ht' hreordered message => ?_⟩
  · obtain ⟨values, -, hvalues⟩ := Option.bind_eq_some_iff.1 hread
    exact (pairwise_definitions_of_ofToml? hvalues).imp Text.le_iff_encode_le.1
  · rw [parse_eq_ok_iff]
    exact ⟨fun h => ⟨h.2.definitions, h.2.defaults⟩, fun h => ⟨hread, h.1, h.2⟩⟩
  · rw [parse, hread]
    simp only [validate]
    cases file.fault? with
    | none => exact .inl rfl
    | some fault => exact .inr ⟨fault, rfl⟩
  · rw [mapError_parse_eq_error_iff hread complaint]
    constructor
    · rintro ⟨fault', h, hmessage⟩
      rw [OverridesFault.message_injective (List.append_cancel_left hmessage)]
      exact h
    · exact fun h => ⟨fault, h, rfl⟩
  · obtain ⟨_, hvalues, hfile⟩ := Option.bind_eq_some_iff.1 hread
    cases ht.symm.trans hvalues
    obtain ⟨file', hfile', hdefinitions, hdefaults⟩ := hreordered.exists_ofToml? hfile
    have hread' : (Toml.parse? document').bind ofToml? = some file' :=
      Option.bind_eq_some_iff.2 ⟨values', ht', hfile'⟩
    rw [mapError_parse_eq_error_iff hread', mapError_parse_eq_error_iff hread]
    simp only [Reports.congr (fun p => hdefinitions.mem_iff) hdefaults]

/-- Two variables and a default with empty keys: the variable is named that comes first in the order
of bytes, in whatever order they are written. A variable without a name comes before them all. -/
theorem validation_exact_standard :
    let a : VariableForm := ⟨"A", ⟨"", .string, false, none⟩, false, false⟩
    let b : VariableForm := ⟨"B", ⟨"", .string, false, none⟩, false, false⟩
    let nameless : VariableForm := ⟨"", ⟨"k", .string, false, none⟩, false, false⟩
    let keyless : DefaultForm := ⟨"", ⟨"v", .string⟩, false⟩
    let complaint : Text → Text := fun _ => "expected a value"
    let message := fun definitions =>
      (parse (document .plain definitions [keyless])).mapError (OverridesError.message complaint)
    message [b, a] = .error "Validation error: variable A has an empty name" ∧
      message [a, b] = .error "Validation error: variable A has an empty name" ∧
      message [b, nameless] = .error "Validation error: variable names must not be empty" := by
  intro a b nameless keyless complaint message
  have hread : (Toml.parse? (document .plain [b, a] [keyless])).bind ofToml? =
      some ⟨[a.entry, b.entry], [keyless.entry]⟩ :=
    ofToml?_document .plain (by decide) (by decide) (.swap _ _ _) rfl
  obtain ⟨-, -, -, hreports, hreordered⟩ := validation_exact complaint _ _ hread
  have htext : "Validation error: " ++ OverridesFault.message (.emptyKey "A") =
      "Validation error: variable A has an empty name".toList := by decide +kernel
  have ha : message [b, a] = .error "Validation error: variable A has an empty name" := by
    rw [← htext]
    exact (hreports (.emptyKey "A")).2 ⟨by decide, ⟨a.definition, .head _, rfl⟩, by decide +kernel⟩
  obtain ⟨values, values', hparse, hparse', hvalues⟩ :=
    reordered_document .plain [keyless] (show ([b, a].map VariableForm.name).Nodup by decide)
      (.swap a b [])
  have hreadNameless : (Toml.parse? (document .plain [b, nameless] [keyless])).bind ofToml? =
      some ⟨[nameless.entry, b.entry], [keyless.entry]⟩ :=
    ofToml?_document .plain (by decide) (by decide) (.swap _ _ _) rfl
  have htextNameless : "Validation error: " ++ OverridesFault.message .emptyVariable =
      "Validation error: variable names must not be empty".toList := by decide +kernel
  refine ⟨ha, (hreordered _ _ _ hparse hparse' hvalues _).2 ha, ?_⟩
  rw [← htextNameless]
  exact ((validation_exact complaint _ _ hreadNameless).2.2.2.1 .emptyVariable).2
    ⟨nameless.entry, .head _, rfl⟩

end Overrides

end UiBootstrap

import UiBootstrap.Proofs.Overlay
import UiBootstrap.Proofs.Toml.Drafting
import UiBootstrap.Proofs.Validation

/-!
# The overrides format loses nothing

A file's contents can be written as a document: a table for each variable, in any order, and then a
table for each default (`Overrides.document`). A field may be left out where it says what is taken
to be so without it, and the characters of strings may be written in any way.
`Overrides.document_read_back` says that the contents are read back from each such document, unless
something is empty that must not be; then that is reported.
-/

namespace UiBootstrap

open Toml (Atom Spelling Value fieldValues present record)

/-! ## What is written -/

/-- A variable as a document writes it. -/
structure VariableForm where
  name : Text
  definition : VariableDefinition
  /-- Whether the type is written even if it is that of a string. -/
  showsType : Bool := false
  /-- Whether it is written even of a current name that it is no legacy alias. -/
  showsLegacy : Bool := false

/-- A default as a document writes it. -/
structure DefaultForm where
  key : Text
  setting : Setting
  /-- Whether the type is written even if it is that of a string. -/
  showsType : Bool := false

/-- A type as a field, which may be left out if it is that of a string. -/
def ValueType.field (type : ValueType) (shown : Bool) : Option Atom :=
  if type = .string ∧ shown = false then none else some (.text type.name)

/-- A truth value as a field, which may be left out if it is false. -/
def truthField (b shown : Bool) : Option Atom :=
  if b = false ∧ shown = false then none else some (.truth b)

namespace VariableForm

/-- The variable with its name. -/
def entry (f : VariableForm) : Text × VariableDefinition := (f.name, f.definition)

/-- The fields of the variable. -/
def fields (f : VariableForm) : Keyed (Option Atom) :=
  [("name", some (.text f.definition.key)), ("type", f.definition.type.field f.showsType),
   ("legacy", truthField f.definition.legacy f.showsLegacy),
   ("deprecated", f.definition.deprecated.map .text)]

end VariableForm

namespace DefaultForm

/-- The default with its key. -/
def entry (f : DefaultForm) : Text × Setting := (f.key, f.setting)

/-- The fields of the default. -/
def fields (f : DefaultForm) : Keyed (Option Atom) :=
  [("key", some (.text f.key)), ("value", some (.text f.setting.value)),
   ("type", f.setting.type.field f.showsType)]

end DefaultForm

namespace Overrides

/-- The document that writes variables and defaults. -/
def document (s : Spelling) (definitions : List VariableForm) (defaults : List DefaultForm) :
    Text :=
  s.document (Toml.recordLines "variables" (definitions.map fun f => (f.name, present f.fields))
    "base" (defaults.map fun f => present f.fields))

end Overrides

/-! ## Fields -/

/-- A type is read back, written or not. -/
theorem optional?_type (type : ValueType) (shown : Bool) :
    Value.optional? Value.asType? .string ((type.field shown).map Atom.value) = some type := by
  rw [ValueType.field]
  split
  · next h =>
    rw [h.1]
    rfl
  · exact ValueType.ofName?_name type

/-- A truth value is read back, written or not. -/
theorem optional?_truth (b shown : Bool) :
    Value.optional? Value.asBool? false ((truthField b shown).map Atom.value) = some b := by
  rw [truthField]
  split
  · next h =>
    rw [h.1]
    rfl
  · rfl

namespace VariableForm

/-- The keys of a variable's fields are proper. -/
theorem proper_fields (f : VariableForm) : Toml.Proper (Keyed.keys f.fields) := by
  have hkeys : Keyed.keys f.fields = ["name", "type", "legacy", "deprecated"] := rfl
  rw [hkeys]
  exact ⟨by decide, by decide⟩

/-- **The definition of a variable is read back.** -/
theorem asDefinition?_record (f : VariableForm) :
    (record (present f.fields)).asDefinition? = some f.definition := by
  have hproper := f.proper_fields
  have hname : Keyed.get? "name" (fieldValues (present f.fields)) =
      some (.string f.definition.key) := Toml.get?_fieldValues hproper (.head _)
  have htype : Keyed.get? "type" (fieldValues (present f.fields)) =
      (f.definition.type.field f.showsType).map Atom.value :=
    Toml.get?_fieldValues hproper (.tail _ (.head _))
  have hlegacy : Keyed.get? "legacy" (fieldValues (present f.fields)) =
      (truthField f.definition.legacy f.showsLegacy).map Atom.value :=
    Toml.get?_fieldValues hproper (.tail _ (.tail _ (.head _)))
  have hdeprecated : Keyed.get? "deprecated" (fieldValues (present f.fields)) =
      (f.definition.deprecated.map Atom.text).map Atom.value :=
    Toml.get?_fieldValues hproper (.tail _ (.tail _ (.tail _ (.head _))))
  have hmessage : Value.optional? (fun v => v.asText?.map some) none
      ((f.definition.deprecated.map Atom.text).map Atom.value) = some f.definition.deprecated := by
    cases f.definition.deprecated <;> rfl
  rw [record, Value.asDefinition?, hname, htype, hlegacy, hdeprecated, optional?_type,
    optional?_truth, hmessage]
  rfl

end VariableForm

namespace DefaultForm

/-- The keys of a default's fields are proper. -/
theorem proper_fields (f : DefaultForm) : Toml.Proper (Keyed.keys f.fields) := by
  have hkeys : Keyed.keys f.fields = ["key", "value", "type"] := rfl
  rw [hkeys]
  exact ⟨by decide, by decide⟩

/-- **A default is read back** with its key. -/
theorem asSetting?_record (f : DefaultForm) :
    (record (present f.fields)).asSetting? = some f.entry := by
  have hproper := f.proper_fields
  have hkey : Keyed.get? "key" (fieldValues (present f.fields)) =
      some (.string f.key) := Toml.get?_fieldValues hproper (.head _)
  have hvalue : Keyed.get? "value" (fieldValues (present f.fields)) =
      some (.string f.setting.value) := Toml.get?_fieldValues hproper (.tail _ (.head _))
  have htype : Keyed.get? "type" (fieldValues (present f.fields)) =
      (f.setting.type.field f.showsType).map Atom.value :=
    Toml.get?_fieldValues hproper (.tail _ (.tail _ (.head _)))
  rw [record, Value.asSetting?, hkey, hvalue, htype, optional?_type]
  rfl

end DefaultForm

/-! ## Documents -/

namespace Overrides

variable {s : Spelling} {definitions : List VariableForm} {defaults : List DefaultForm}
  {file : Overrides}

/-- The definitions of a document are read back, in the order in which they are written. -/
theorem asDefinitions?_table (definitions : List VariableForm) :
    Value.asDefinitions? (.table ((definitions.map fun f => (f.name, present f.fields)).map
      fun p => (p.1, record p.2))) = some (definitions.map VariableForm.entry) := by
  rw [Value.asDefinitions?, List.mapM_map, List.mapM_map, ← Option.pure_def, ← List.mapM_pure]
  refine congrArg (List.mapM · definitions) (funext fun f => ?_)
  simp only [Function.comp_apply, f.asDefinition?_record]
  rfl

/-- The defaults of a document are read back, in the order in which they are written. -/
theorem asSettings?_array (defaults : List DefaultForm) :
    Value.asSettings? (.array ((defaults.map fun f => present f.fields).map record)) =
      some (defaults.map DefaultForm.entry) := by
  rw [Value.asSettings?, List.mapM_map, List.mapM_map, ← Option.pure_def, ← List.mapM_pure]
  exact congrArg (List.mapM · defaults) (funext DefaultForm.asSetting?_record)

/-- Sorting brings definitions in any order into that of their names. -/
theorem mergeSort_eq_of_perm {l m : Keyed VariableDefinition} (h : l.Perm m)
    (hsorted : m.Pairwise fun v w => nameLe v w = true) (hnd : (Keyed.keys m).Nodup) :
    l.mergeSort nameLe = m := by
  have hperm : (l.mergeSort nameLe).Perm m := (List.mergeSort_perm l nameLe).trans h
  refine List.Perm.eq_of_pairwise ?_ (pairwise_mergeSort l) hsorted hperm
  intro v w hv hw hvw hwv
  have hname : v.1 = w.1 := Text.le_antisymm hvw hwv
  have hget : Keyed.get? v.1 m = some v.2 := Keyed.get?_of_mem hnd (hperm.mem_iff.1 hv)
  have hget' : Keyed.get? w.1 m = some w.2 := Keyed.get?_of_mem hnd hw
  rw [← hname, hget] at hget'
  exact Prod.ext hname (Option.some.inj hget')

/-- The tables of a document are read back. -/
theorem parse?_document (s : Spelling) (definitions : List VariableForm)
    (defaults : List DefaultForm) (hnd : (definitions.map VariableForm.name).Nodup) :
    let tables := definitions.map fun f => (f.name, present f.fields)
    let elements := defaults.map fun f => present f.fields
    ∃ values : Keyed Value, Toml.parse? (document s definitions defaults) = some values ∧
      values.get? "variables" = (if tables.isEmpty then none
        else some (.table (tables.map fun p => (p.1, record p.2)))) ∧
      values.get? "base" = (if elements.isEmpty then none
        else some (.array (elements.map record))) := by
  intro tables elements
  have hvariablesBare : Toml.isBare "variables" = true := by decide
  have hbaseBare : Toml.isBare "base" = true := by decide
  have hnames : (Keyed.keys tables).Nodup := by
    rw [Keyed.keys, List.map_map]
    exact hnd
  have htables : ∀ p ∈ tables, Toml.Proper (Keyed.keys p.2) := by
    intro p hp
    obtain ⟨f, -, rfl⟩ := List.mem_map.1 hp
    exact f.proper_fields.present
  have helements : ∀ fields ∈ elements, Toml.Proper (Keyed.keys fields) := by
    intro fields hfields
    obtain ⟨f, -, rfl⟩ := List.mem_map.1 hfields
    exact f.proper_fields.present
  exact Toml.parse?_document s hvariablesBare hbaseBare (by decide) hnames htables helements

/-- **A document is read as the contents that it writes.** -/
theorem ofToml?_document (s : Spelling)
    (hsorted : file.definitions.Pairwise fun v w => nameLe v w = true)
    (hnd : (Keyed.keys file.definitions).Nodup)
    (hdefinitions : (definitions.map VariableForm.entry).Perm file.definitions)
    (hdefaults : defaults.map DefaultForm.entry = file.defaults) :
    (Toml.parse? (document s definitions defaults)).bind ofToml? = some file := by
  have hnames : (definitions.map VariableForm.name).Nodup := by
    have hperm := (hdefinitions.map Prod.fst).nodup_iff.2 hnd
    rw [List.map_map] at hperm
    exact hperm
  obtain ⟨values, hparse, hvariables, hbase⟩ := parse?_document s definitions defaults hnames
  have hdefinitionsRead : Value.optional? Value.asDefinitions? [] (values.get? "variables") =
      some (definitions.map VariableForm.entry) := by
    rw [hvariables]
    cases definitions with
    | nil => rfl
    | cons f definitions => exact asDefinitions?_table (f :: definitions)
  have hdefaultsRead : Value.optional? Value.asSettings? [] (values.get? "base") =
      some (defaults.map DefaultForm.entry) := by
    rw [hbase]
    cases defaults with
    | nil => rfl
    | cons f defaults => exact asSettings?_array (f :: defaults)
  rw [hparse, Option.bind_some, ofToml?, hdefinitionsRead, hdefaultsRead]
  simp only [Option.bind_eq_bind, Option.bind_some, mergeSort_eq_of_perm hdefinitions hsorted hnd,
    hdefaults]
  rfl

/-! ## The law -/

/-- **The overrides format loses nothing.** Let a file have definitions of variables, in the order
of their names and one for each name, and defaults. Let a document write the variables in any order,
and then the defaults in theirs, each as a table of its own, with strings spelled in any way. In
each table the type may be left out if it is that of a string, and likewise that a variable is no
legacy alias. If everything is filled in that must be, the document is read as the file: the same
definitions, and the same defaults in the same order. If something is empty that must not be, the
first such fault of the file is reported. -/
theorem document_read_back (s : Spelling) (definitions : List VariableForm)
    (defaults : List DefaultForm) (file : Overrides)
    (hsorted : file.definitions.Pairwise fun v w => nameLe v w = true)
    (hnd : (Keyed.keys file.definitions).Nodup)
    (hdefinitions : (definitions.map VariableForm.entry).Perm file.definitions)
    (hdefaults : defaults.map DefaultForm.entry = file.defaults) :
    let document := document s definitions defaults
    ((∀ p ∈ file.definitions, p.1 ≠ [] ∧ p.2.key ≠ []) ∧ (∀ p ∈ file.defaults, p.1 ≠ []) →
        parse document = .ok file) ∧
      ((∃ p ∈ file.definitions, p.1 = [] ∨ p.2.key = []) ∨ (∃ p ∈ file.defaults, p.1 = []) →
        ∃ fault, file.fault? = some fault ∧ parse document = .error (.invalid fault)) := by
  intro document
  have hread : (Toml.parse? document).bind ofToml? = some file :=
    ofToml?_document s hsorted hnd hdefinitions hdefaults
  refine ⟨fun h => parse_eq_ok_iff.2 ⟨hread, h.1, h.2⟩, fun h => ?_⟩
  cases hfault : file.fault? with
  | none =>
    have hfilled : file.Filled := fault?_eq_none_iff.1 hfault
    rcases h with ⟨p, hp, hname | hkey⟩ | ⟨p, hp, hkey⟩
    · exact absurd hname (hfilled.definitions p hp).1
    · exact absurd hkey (hfilled.definitions p hp).2
    · exact absurd hkey (hfilled.defaults p hp)
  | some fault =>
    refine ⟨fault, rfl, ?_⟩
    rw [parse, hread]
    simp only [validate, hfault]

/-- Two variables out of order, with a dot, a quote, a backslash and a control character in their
texts, a default that is given twice, and a variable that sets the empty key. -/
theorem document_read_back_standard :
    let url : VariableDefinition := ⟨"url", .string, false, some "say \"URI\"\n"⟩
    let theme : VariableDefinition := ⟨"theme\x00", .object, true, none⟩
    let definitions : List VariableForm :=
      [⟨"URL", url, true, true⟩, ⟨"A.B \\", theme, false, false⟩]
    let defaults : List DefaultForm := [⟨"k", ⟨"", .number⟩, false⟩, ⟨"k", ⟨"]", .string⟩, true⟩]
    document .plain definitions defaults =
        "[variables.\"URL\"]\nname = \"url\"\ntype = \"string\"\nlegacy = false\n" ++
        "deprecated = \"say \\\"URI\\\"\\u000a\"\n" ++
        "[variables.\"A.B \\\\\"]\nname = \"theme\\u0000\"\ntype = \"object\"\nlegacy = true\n" ++
        "[[base]]\nkey = \"k\"\nvalue = \"\"\ntype = \"number\"\n" ++
        "[[base]]\nkey = \"k\"\nvalue = \"]\"\ntype = \"string\"\n" ∧
      parse (document .plain definitions defaults) =
        .ok ⟨[("A.B \\", theme), ("URL", url)], [("k", ⟨"", .number⟩), ("k", ⟨"]", .string⟩)]⟩ ∧
      ∃ fault, parse (document .plain [⟨"URL", ⟨"", .string, false, none⟩, false, false⟩] []) =
        .error (.invalid fault) := by
  intro url theme definitions defaults
  have hread := (document_read_back .plain definitions defaults
    ⟨[("A.B \\", theme), ("URL", url)], [("k", ⟨"", .number⟩), ("k", ⟨"]", .string⟩)]⟩
    (by decide) (by decide) (.swap _ _ _) rfl).1 ⟨by decide, by decide⟩
  obtain ⟨fault, -, hinvalid⟩ := (document_read_back .plain
    [⟨"URL", ⟨"", .string, false, none⟩, false, false⟩] []
    ⟨[("URL", ⟨"", .string, false, none⟩)], []⟩ (by decide) (by decide) (.refl _) rfl).2
    (.inl ⟨_, .head _, .inr rfl⟩)
  exact ⟨by decide +kernel, hread, fault, hinvalid⟩

end Overrides

end UiBootstrap

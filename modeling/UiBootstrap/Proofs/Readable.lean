import Mathlib.Data.List.Forall2
import UiBootstrap.Resolution
import UiBootstrap.Environment
import UiBootstrap.Proofs.IllFormed

/-!
# The variables that are kept

A process may have variables that are no text, in their name or in their value. Reading them keeps
those that are text throughout, and has an event for each of the others, both in order
(`RawVariable.readable_exact`). What is kept can be encoded again, so it is what it was, and nothing
but what is kept has an influence on the fragment.
-/

namespace UiBootstrap

open Text.Utf8 (encode WellFormed Pieces)

namespace RawVariable

variable {v : RawVariable} {pair : Text × Text}

/-- The variable that a text with a name is. -/
def ofText (pair : Text × Text) : RawVariable := (encode pair.1, encode pair.2)

/-- The name and the value are UTF-8. -/
def IsText (v : RawVariable) : Prop := WellFormed v.1 ∧ WellFormed v.2

instance : DecidablePred IsText := fun _ => inferInstanceAs (Decidable (_ ∧ _))

/-- Different texts are different variables. -/
theorem ofText_injective : Function.Injective ofText := by
  intro pair other h
  obtain ⟨hname, hvalue⟩ := Prod.mk.inj h
  exact Prod.ext (Text.Utf8.encode_injective hname) (Text.Utf8.encode_injective hvalue)

/-- A variable is decoded to the texts that it encodes. -/
theorem decode?_eq_some_iff : v.decode? = some pair ↔ ofText pair = v := by
  obtain ⟨name, value⟩ := v
  obtain ⟨nameText, valueText⟩ := pair
  simp only [decode?, Option.bind_eq_bind, Option.bind_eq_some_iff, Option.pure_def,
    Option.some.injEq, Prod.mk.injEq, Text.Utf8.decode?_eq_some_iff, ofText]
  constructor
  · rintro ⟨_, hname, _, hvalue, rfl, rfl⟩
    exact ⟨hname, hvalue⟩
  · rintro ⟨hname, hvalue⟩
    exact ⟨nameText, hname, valueText, hvalue, rfl, rfl⟩

/-- A variable is decoded if it is text throughout. -/
theorem exists_decode?_iff : (∃ pair, v.decode? = some pair) ↔ v.IsText := by
  constructor
  · rintro ⟨pair, h⟩
    rw [← decode?_eq_some_iff.1 h]
    exact ⟨⟨_, rfl⟩, ⟨_, rfl⟩⟩
  · rintro ⟨⟨name, hname⟩, ⟨value, hvalue⟩⟩
    exact ⟨(name, value), decode?_eq_some_iff.2 (Prod.ext hname hvalue)⟩

/-- A variable that is no text is not decoded. -/
theorem decode?_eq_none_iff : v.decode? = none ↔ ¬ v.IsText := by
  rw [← exists_decode?_iff, not_exists, Option.eq_none_iff_forall_ne_some]

/-! ## All variables -/

/-- The variables that are kept are those that are UTF-8, in order. -/
theorem value_readable (vars : List RawVariable) :
    (readable vars).value = vars.filterMap decode? := by
  induction vars with
  | nil => rfl
  | cons v vars ih =>
    cases h : v.decode? with
    | none => simp only [readable, h, List.filterMap_cons, ih]
    | some pair => simp only [readable, h, List.filterMap_cons, ih]

/-- Encoded again, they are what they were. -/
theorem map_ofText_value_readable (vars : List RawVariable) :
    (readable vars).value.map ofText = vars.filter fun v => v.IsText := by
  have hguard : ∀ v : RawVariable,
      v.decode?.map ofText = Option.guard (fun v : RawVariable => v.IsText) v := by
    intro v
    unfold Option.guard
    split
    · next h =>
      obtain ⟨pair, hpair⟩ := exists_decode?_iff.2 (of_decide_eq_true h)
      rw [hpair, Option.map_some, decode?_eq_some_iff.1 hpair]
    · next h =>
      rw [decode?_eq_none_iff.2 fun htext => h (decide_eq_true htext)]
      rfl
  rw [value_readable, List.map_filterMap, List.filterMap_congr fun v _ => hguard v]
  exact congrFun List.filterMap_eq_filter vars

/-- Each of the others has an event, in order, with the text of its name as far as it is one. -/
theorem events_readable (vars : List RawVariable) : (readable vars).events =
    (vars.filter fun v => ¬ v.IsText).map fun v =>
      .unreadable (Text.Utf8.decodeLossy v.1) := by
  induction vars with
  | nil => rfl
  | cons v vars ih =>
    cases h : v.decode? with
    | none =>
      have htext : ¬ v.IsText := decode?_eq_none_iff.1 h
      rw [List.filter_cons_of_pos (by simpa using htext), List.map_cons, ← ih]
      simp only [readable, h]
    | some pair =>
      have htext : v.IsText := exists_decode?_iff.1 ⟨pair, h⟩
      rw [List.filter_cons_of_neg (by simpa using htext), ← ih]
      simp only [readable, h]

/-- The event tells of the variable: it is a debugging entry of the log, about the name of the
variable if that is a text, and otherwise about what is left of it with U+FFFD for every ill-formed
part. -/
def IsToldBy (v : RawVariable) (e : Event) : Prop :=
  ∃ name pieces, e.logEntry? =
      some ⟨.debug, "skipping non-UTF-8 environment variable", [("variable", name)], false⟩ ∧
    (∀ t, encode t = v.1 → name = t) ∧
    Pieces v.1 pieces ∧ name = pieces.map (·.getD '\uFFFD')

/-- The event of a variable tells of it. -/
theorem isToldBy_unreadable (v : RawVariable) :
    v.IsToldBy (.unreadable (Text.Utf8.decodeLossy v.1)) := by
  have hpieces := Text.Utf8.pieces_scan v.1
  refine ⟨_, _, rfl, fun t ht => ?_, hpieces, Text.Utf8.decodeLossy_eq hpieces⟩
  rw [← ht, Text.Utf8.decodeLossy_encode]

/-- **Reading the variables of a process splits them exactly.** Encoded again, the variables kept
are those of which the name and the value are well-formed, in their order and as often as they are
there. Each of the others has one event, in their order, that tells of it, and there is no event
besides. So the variables kept and the events are as many as the variables; and the environment that
encodes to the well-formed variables is resolved as what is kept. -/
theorem readable_exact (vars : List RawVariable) (options : Options) :
    let wellFormed := fun v : RawVariable => WellFormed v.1 ∧ WellFormed v.2
    let read := readable vars
    read.value.map (fun (name, value) => (encode name, encode value)) =
        vars.filter (fun v => wellFormed v) ∧
      List.Forall₂ IsToldBy (vars.filter fun v => ¬ wellFormed v) read.events ∧
      read.value.length + read.events.length = vars.length ∧
      ∀ env : Environment,
        env.map (fun (name, value) => (encode name, encode value)) =
          vars.filter (fun v => wellFormed v) →
        options.resolve read.value = options.resolve env := by
  intro wellFormed read
  have hkept : read.value.map ofText = vars.filter fun v => v.IsText :=
    map_ofText_value_readable vars
  have hdropped : read.events = (vars.filter fun v => ¬ v.IsText).map _ := events_readable vars
  refine ⟨hkept, ?_, ?_, fun env henv => ?_⟩
  · rw [hdropped]
    exact List.forall₂_map_right_iff.2 (List.forall₂_same.2 fun v _ => v.isToldBy_unreadable)
  · have hkeptLength : read.value.length = (vars.filter fun v => v.IsText).length := by
      rw [← hkept, List.length_map]
    rw [hkeptLength, hdropped, List.length_map]
    have hsplit := List.length_eq_length_filter_add (l := vars) fun v => decide v.IsText
    simpa using hsplit.symm
  · have hsame : read.value.map ofText = env.map ofText := hkept.trans henv.symm
    rw [List.map_injective_iff.2 ofText_injective hsame]

/-- A name that is no text, one that is cut short in its second character, half a surrogate pair as
a value, and a slash in two bytes; of the rest one is recognized and one not. -/
theorem readable_exact_broken :
    let vars : List RawVariable := [(encode "URL", encode "/é"), ([0xFF, 0x41], encode "v"),
      ([0x41, 0xE2, 0x82], []), (encode "É", [0xED, 0xA0, 0x80]), (encode "HOME", encode "/"),
      (encode "B", [0xC0, 0xAF])]
    let read := readable vars
    read.value.map (fun (name, value) => (encode name, encode value)) =
        [(encode "URL", encode "/é"), (encode "HOME", encode "/")] ∧
      read.events = [.unreadable "\uFFFDA", .unreadable "A\uFFFD", .unreadable "É",
        .unreadable "B"] ∧
      read.value.length + read.events.length = 6 ∧
      Options.standard.resolve read.value =
        Options.standard.resolve [("URL", "/é"), ("HOME", "/")] := by
  intro vars read
  obtain ⟨hkept, -, hlength, hresolve⟩ := readable_exact vars .standard
  have hwellFormed : (vars.filter fun v => WellFormed v.1 ∧ WellFormed v.2) =
      [(encode "URL", encode "/é"), (encode "HOME", encode "/")] := by decide +kernel
  refine ⟨hkept.trans hwellFormed, by decide +kernel, hlength, hresolve _ ?_⟩
  exact hwellFormed.symm

end RawVariable

end UiBootstrap

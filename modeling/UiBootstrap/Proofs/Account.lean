import UiBootstrap.Resolution
import UiBootstrap.Proofs.Indentation
import UiBootstrap.Proofs.Json.Text
import UiBootstrap.Proofs.Occurrences

/-!
# Reports for a human reader are read back

A report for a human reader is text without any quoting: a key may look like the end of a trace
line, and the fragment may look like trace lines. But every line above the fragment ends with one of
five fixed texts, of which none is the end of another (`Ending.eq_of_suffix`). So a line tells by
its end what it is, whatever stands before that, and the first line that ends like the count is the
count (`Resolution.human_read_back`).
-/

namespace UiBootstrap

variable {entry : TraceEntry} {r : Resolution} {l t : Text}

/-! ## How lines end -/

/-- What a line above the fragment may be: a trace entry with an outcome, or the count. -/
inductive Ending where
  | entry (outcome : Outcome)
  | count
  deriving DecidableEq, Repr

namespace Ending

/-- The fixed text at the end of such a line. -/
def text : Ending → Text
  | .entry outcome => ": " ++ outcome.remark
  | .count => " unrecognized variable(s) ignored"

/-- Every ending. -/
def all : List Ending :=
  [.entry .inserted, .entry (.replaced true), .entry (.replaced false), .entry .superseded, .count]

/-- No ending is missing. -/
theorem mem_all (e : Ending) : e ∈ all := by
  rcases e with (_ | (_ | _) | _) | _ <;> decide

/-- None of them is the end of another. -/
theorem eq_of_text_suffix : ∀ e ∈ all, ∀ e' ∈ all, e.text <:+ e'.text → e = e' := by decide

/-- **A line has one ending only.** -/
theorem eq_of_suffix {e e' : Ending} (h : e.text <:+ l) (h' : e'.text <:+ l) : e = e' := by
  rcases List.suffix_or_suffix_of_suffix h h' with hends | hends
  · exact eq_of_text_suffix e (mem_all e) e' (mem_all e') hends
  · exact (eq_of_text_suffix e' (mem_all e') e (mem_all e) hends).symm

/-- The ending of a line, with what stands before it. -/
def split? (l : Text) : Option (Text × Ending) :=
  all.findSome? fun e => (e.text.isSuffixOf? l).map (·, e)

/-- **A line is split at its ending**, whatever stands before it. -/
theorem split?_append_text (front : Text) (e : Ending) :
    split? (front ++ e.text) = some (front, e) := by
  have hself : e.text.isSuffixOf? (front ++ e.text) = some front :=
    List.isSuffixOf?_eq_some_iff_append_eq.2 rfl
  unfold split?
  cases hsplit : all.findSome? fun e' => (e'.text.isSuffixOf? (front ++ e.text)).map (·, e') with
  | none =>
    have hnone := List.findSome?_eq_none_iff.1 hsplit e (mem_all e)
    rw [hself] at hnone
    cases hnone
  | some p =>
    obtain ⟨e', -, hp⟩ := List.exists_of_findSome?_eq_some hsplit
    obtain ⟨front', hfront, rfl⟩ := Option.map_eq_some_iff.1 hp
    have happend : front' ++ e'.text = front ++ e.text :=
      List.isSuffixOf?_eq_some_iff_append_eq.1 hfront
    obtain rfl : e' = e := eq_of_suffix ⟨front', happend⟩ (List.suffix_append front e.text)
    rw [List.append_cancel_right happend]

end Ending

/-! ## Reading a line -/

/-- Whether a line ends like the count. -/
def endsLikeCount (l : Text) : Bool := Ending.count.text.isSuffixOf l

/-- Reads the count. -/
def readCount? (l : Text) : Option Nat :=
  match Ending.split? l with
  | some (digits, .count) => Json.natural? digits
  | _ => none

/-- Reads a trace entry: its name up to the first space, an arrow, and its key up to the ending that
tells its outcome. -/
def TraceEntry.ofLine? (l : Text) : Option TraceEntry := do
  let (name, rest) ← Text.splitFirst? [' '] l
  match ← Ending.split? (← ("-> " : Text).isPrefixOf? rest) with
  | (key, .entry outcome) => some ⟨name, key, outcome⟩
  | (_, .count) => none

/-- A trace line ends with the ending for its outcome. -/
theorem TraceEntry.line_eq (entry : TraceEntry) : entry.line =
    entry.name ++ " -> " ++ entry.key ++ (Ending.entry entry.outcome).text :=
  List.append_assoc _ _ _

/-- **A trace entry is read back from its line**, whatever its key looks like. -/
theorem TraceEntry.ofLine?_line (h : ' ' ∉ entry.name) : ofLine? entry.line = some entry := by
  obtain ⟨name, key, outcome⟩ := entry
  have hspace : (" -> " : Text) = ' ' :: "-> " := rfl
  have hline : line ⟨name, key, outcome⟩ =
      name ++ ' ' :: (("-> " : Text) ++ (key ++ (Ending.entry outcome).text)) := by
    rw [line_eq, hspace, List.append_assoc, List.append_assoc, List.cons_append]
  have harrow : ("-> " : Text).isPrefixOf?
      (("-> " : Text) ++ (key ++ (Ending.entry outcome).text)) =
        some (key ++ (Ending.entry outcome).text) := Text.isPrefixOf?_eq_some_iff.2 rfl
  unfold ofLine?
  rw [hline, Text.splitFirst?_append_cons h]
  simp only [Option.bind_eq_bind, Option.bind_some, harrow, Ending.split?_append_text]

/-- The count is read back. -/
theorem readCount?_ignoredLine (n : Nat) : readCount? (Resolution.ignoredLine n) = some n := by
  have hline : Resolution.ignoredLine n = Text.decimal n ++ Ending.count.text := rfl
  unfold readCount?
  rw [hline, Ending.split?_append_text]
  exact Json.natural?_decimal n

/-- No trace line ends like the count, whatever its key looks like. -/
theorem TraceEntry.endsLikeCount_line (entry : TraceEntry) : endsLikeCount entry.line = false := by
  have hentry : (Ending.entry entry.outcome).text <:+ entry.line :=
    ⟨entry.name ++ " -> " ++ entry.key, entry.line_eq.symm⟩
  unfold endsLikeCount
  rw [← Bool.not_eq_true, List.isSuffixOf_iff_suffix]
  intro hcount
  cases Ending.eq_of_suffix hcount hentry

/-- The count does. -/
theorem endsLikeCount_ignoredLine (n : Nat) : endsLikeCount (Resolution.ignoredLine n) = true :=
  List.isSuffixOf_iff_suffix.2 (List.suffix_append (Text.decimal n) _)

/-! ## Lines -/

/-- The remarks on outcomes stand on one line. -/
theorem newline_not_mem_text (e : Ending) : '\n' ∉ e.text := by
  have hall : ∀ e ∈ Ending.all, '\n' ∉ e.text := by decide
  exact hall e (Ending.mem_all e)

/-- A trace entry stands on one line, if its name and its key do. -/
theorem TraceEntry.newline_not_mem_line (hname : '\n' ∉ entry.name) (hkey : '\n' ∉ entry.key) :
    '\n' ∉ entry.line := by
  have harrow : '\n' ∉ (" -> " : Text) := by decide
  rw [line_eq]
  simp only [List.mem_append, not_or]
  exact ⟨⟨⟨hname, harrow⟩, hkey⟩, newline_not_mem_text _⟩

/-- So does the count. -/
theorem newline_not_mem_ignoredLine (n : Nat) : '\n' ∉ Resolution.ignoredLine n := by
  have hdecimal : '\n' ∉ Text.decimal n := fun h =>
    absurd (Json.isDigit_of_mem_decimal h) (by decide)
  show '\n' ∉ Text.decimal n ++ Ending.count.text
  simp [hdecimal, newline_not_mem_text]

namespace Resolution

/-- A report for a human reader in which every trace entry stands on one line, and every name ends
at a space. -/
def IsLegible (r : Resolution) : Prop :=
  ∀ entry ∈ r.trace, '\n' ∉ entry.name ∧ '\n' ∉ entry.key ∧ ' ' ∉ entry.name

/-- The lines of a report: the trace, the count, an empty line and those of the fragment. -/
theorem lines_humanText (h : r.IsLegible) : Text.lines r.humanText =
    r.trace.map (·.line) ++ ignoredLine r.ignored :: [] :: Text.lines r.fragment := by
  have htext : r.humanText = Text.unlines
      (r.trace.map (·.line) ++ ignoredLine r.ignored :: [] :: Text.lines r.fragment) := by
    have happend := Text.unlines_append_unlines
      (r.trace.map (·.line) ++ [ignoredLine r.ignored, []]) (Text.lines_ne_nil r.fragment)
    rw [Text.unlines_lines] at happend
    simpa [humanText] using happend
  rw [htext]
  refine Text.lines_unlines (by simp) fun l hl => ?_
  rcases List.mem_append.1 hl with hl | hl
  · obtain ⟨entry, hentry, rfl⟩ := List.mem_map.1 hl
    exact TraceEntry.newline_not_mem_line (h entry hentry).1 (h entry hentry).2.1
  rcases List.mem_cons.1 hl with rfl | hl
  · exact newline_not_mem_ignoredLine r.ignored
  rcases List.mem_cons.1 hl with rfl | hl
  · exact List.not_mem_nil
  · exact Text.newline_not_mem_of_mem_lines hl

/-- The lines of a text above the first one that ends like the count. -/
def linesAbove (t : Text) : List Text := (Text.lines t).takeWhile (!endsLikeCount ·)

/-- The lines of a text from the first one on that ends like the count. -/
def linesFrom (t : Text) : List Text := (Text.lines t).dropWhile (!endsLikeCount ·)

/-- The lines above the count are those of the trace. -/
theorem linesAbove_humanText (h : r.IsLegible) : linesAbove r.humanText = r.trace.map (·.line) := by
  unfold linesAbove
  rw [lines_humanText h, List.takeWhile_append_of_pos,
    List.takeWhile_cons_of_neg (by simp [endsLikeCount_ignoredLine]), List.append_nil]
  intro l hl
  obtain ⟨entry, -, rfl⟩ := List.mem_map.1 hl
  simp [entry.endsLikeCount_line]

/-- Below them the count comes first. -/
theorem linesFrom_humanText (h : r.IsLegible) :
    linesFrom r.humanText = ignoredLine r.ignored :: [] :: Text.lines r.fragment := by
  unfold linesFrom
  rw [lines_humanText h, List.dropWhile_append_of_pos,
    List.dropWhile_cons_of_neg (by simp [endsLikeCount_ignoredLine])]
  intro l hl
  obtain ⟨entry, -, rfl⟩ := List.mem_map.1 hl
  simp [entry.endsLikeCount_line]

/-- Reads a report: a trace entry from each line above the count, the count, and the fragment below
the line behind it. -/
def ofHumanText? (t : Text) : Option Resolution :=
  match linesFrom t with
  | count :: [] :: rest => do
    let trace ← (linesAbove t).mapM TraceEntry.ofLine?
    return ⟨Text.unlines rest, trace, ← readCount? count⟩
  | _ => none

/-- The trace is read back from the lines above the count. -/
theorem map_ofLine?_linesAbove (h : r.IsLegible) :
    (linesAbove r.humanText).map TraceEntry.ofLine? = r.trace.map some := by
  rw [linesAbove_humanText h, List.map_map]
  refine List.map_congr_left fun entry hentry => ?_
  exact TraceEntry.ofLine?_line (h entry hentry).2.2

/-- A whole report is read back. -/
theorem ofHumanText?_humanText (h : r.IsLegible) : ofHumanText? r.humanText = some r := by
  unfold ofHumanText?
  rw [linesFrom_humanText h]
  have htrace := mapM_eq_some_iff.2 (map_ofLine?_linesAbove h)
  simp only [htrace, readCount?_ignoredLine, Text.unlines_lines, Option.bind_eq_bind,
    Option.bind_some]
  rfl

/-- **A report for a human reader is read back**, if no name and no key in it breaks a line and no
name has a space. The lines above the first one that ends like the count are one for each trace
entry, in their order, and from each its entry is read: its name up to the first space, its key, and
its outcome. The count is read from the line that ends like it. An empty line follows, and the lines
below that are the fragment, whatever stands in it. So no other such resolution has the same report.
-/
theorem human_read_back (r : Resolution) (h : r.IsLegible) :
    (linesAbove r.humanText).map TraceEntry.ofLine? = r.trace.map some ∧
      (∃ count rest, linesFrom r.humanText = count :: [] :: rest ∧
        readCount? count = some r.ignored ∧ Text.unlines rest = r.fragment) ∧
      ofHumanText? r.humanText = some r ∧
      ∀ other : Resolution, other.IsLegible → other.humanText = r.humanText → other = r := by
  refine ⟨map_ofLine?_linesAbove h, ⟨_, _, linesFrom_humanText h,
    readCount?_ignoredLine r.ignored, Text.unlines_lines r.fragment⟩, ofHumanText?_humanText h,
    fun other hother heq => ?_⟩
  have hread : ofHumanText? other.humanText = ofHumanText? r.humanText := congrArg _ heq
  rw [ofHumanText?_humanText hother, ofHumanText?_humanText h] at hread
  exact Option.some.inj hread

/-- Keys that look like the end of a trace line and like the count, a name with nothing in it, and a
fragment that looks like a report. -/
theorem human_read_back_forged :
    let trace : List TraceEntry := [⟨"A", "k: set", .replaced true⟩,
      ⟨[], ": overrides base value", .inserted⟩,
      ⟨"B", "0 unrecognized variable(s) ignored", .superseded⟩]
    let r : Resolution := ⟨"C -> c: set\n7 unrecognized variable(s) ignored\n\n", trace, 2⟩
    r.IsLegible ∧ ofHumanText? r.humanText = some r ∧
      (linesAbove r.humanText).map TraceEntry.ofLine? = trace.map some := by
  intro trace r
  have h : r.IsLegible := by
    unfold IsLegible
    decide +kernel
  obtain ⟨hlines, -, hread, -⟩ := human_read_back r h
  exact ⟨h, hread, hlines⟩

end Resolution

end UiBootstrap

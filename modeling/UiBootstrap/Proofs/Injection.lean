import Mathlib.Data.List.Induction
import UiBootstrap.Template
import UiBootstrap.Proofs.Occurrences

/-!
# What an injection changes

A template is cut at its two markers: at the first start marker and at the first end marker behind
it (`Region.find?_eq_some_iff`). That is possible exactly if some end marker stands behind some
start marker, whatever other markers there are, and of all the ways to cut the template there it is
the one that leaves the least before the start marker and then the least between the two
(`Region.find?_eq_some_iff_isFirst`). So an injection fails on no other template, and rewrites what
stands between these two markers and nothing else (`Options.injection_complete`). An injection into
a file can also fail before, where the file is read, and behind, where it is written
(`Options.EndsIn`).
-/

namespace UiBootstrap

variable {template : Text} {region other : Region}

/-- The start marker is not empty. -/
theorem startMarker_ne_nil : startMarker ≠ [] := by decide

/-- The end marker stands on one line and starts with a slash. -/
theorem endMarker_isMark : Text.IsMark endMarker where
  first := ⟨'/', _, rfl, by decide⟩
  newline := by decide

namespace Text

variable {t l mark b b' a a' : Text} {c : Char}

/-- Cuts of one text at the same place leave the same on both sides. -/
theorem cut_inj (h : b ++ mark ++ a = b' ++ mark ++ a') (hlen : b.length = b'.length) :
    b = b' ∧ a = a' := by
  obtain ⟨hb, ha⟩ := List.append_inj h (by simp [hlen])
  exact ⟨List.append_cancel_right hb, ha⟩

/-- `l` is what stands behind the last newline of `t`, or all of it if there is none. -/
def IsLastLine (l t : Text) : Prop :=
  '\n' ∉ l ∧ (t = l ∨ ∃ above, t = above ++ '\n' :: l)

/-- A newline ends the last line, and any other character goes on with it. -/
theorem lastLine_concat : lastLine (t ++ [c]) = if c = '\n' then [] else lastLine t ++ [c] := by
  rw [lastLine, List.reverse_append, List.reverse_singleton, List.singleton_append,
    List.takeWhile_cons]
  by_cases h : c = '\n' <;> simp [h, lastLine]

/-- The last line is what stands behind the last newline. -/
theorem isLastLine_lastLine (t : Text) : IsLastLine (lastLine t) t := by
  induction t using List.reverseRecOn with
  | nil => exact ⟨List.not_mem_nil, .inl rfl⟩
  | append_singleton t c ih =>
    obtain ⟨hnewline, ht⟩ := ih
    rw [lastLine_concat]
    split
    · next h => exact ⟨List.not_mem_nil, .inr ⟨t, by rw [h]⟩⟩
    · next h =>
      refine ⟨by simp [hnewline, Ne.symm h], ?_⟩
      rcases ht with ht | ⟨above, ht⟩
      · exact .inl (congrArg (· ++ [c]) ht)
      · exact .inr ⟨above, (congrArg (· ++ [c]) ht).trans (by simp)⟩

end Text

namespace Region

/-- The template is the text that was cut. -/
def Cuts (region : Region) (template : Text) : Prop :=
  template = region.before ++ startMarker ++ region.inside ++ endMarker ++ region.after

/-- Of all the ways to cut a template at a start marker and an end marker behind it, the one that
leaves the least before the start marker, and then the least between the two. -/
structure IsFirst (region : Region) (template : Text) : Prop where
  cuts : region.Cuts template
  before_le : ∀ other : Region, other.Cuts template → region.before.length ≤ other.before.length
  inside_le : ∀ other : Region, other.Cuts template → other.before = region.before →
    region.inside.length ≤ other.inside.length

/-- **The call region** stands between the first start marker and the first end marker behind it. -/
theorem find?_eq_some_iff : find? template = some region ↔
    template = region.before ++ startMarker ++ (region.inside ++ endMarker ++ region.after) ∧
      ¬ startMarker <:+: region.before ++ startMarker.dropLast ∧
      ¬ endMarker <:+: region.inside ++ endMarker.dropLast := by
  obtain ⟨before, inside, after⟩ := region
  constructor
  · intro h
    obtain ⟨⟨b, rest⟩, hstart, h⟩ := Option.bind_eq_some_iff.1 h
    obtain ⟨⟨i, a⟩, hend, h⟩ := Option.bind_eq_some_iff.1 h
    obtain ⟨rfl, rfl, rfl⟩ := Region.mk.inj (Option.some.inj h)
    obtain ⟨rfl, hfirst⟩ := (Text.splitFirst?_eq_some_iff startMarker_ne_nil).1 hstart
    obtain ⟨rfl, hfirst'⟩ := (Text.splitFirst?_eq_some_iff endMarker_isMark.ne_nil).1 hend
    exact ⟨rfl, hfirst, hfirst'⟩
  · rintro ⟨rfl, hfirst, hfirst'⟩
    have hstart : Text.splitFirst? startMarker _ = some (before, inside ++ endMarker ++ after) :=
      (Text.splitFirst?_eq_some_iff startMarker_ne_nil).2 ⟨rfl, hfirst⟩
    have hend : Text.splitFirst? endMarker _ = some (inside, after) :=
      (Text.splitFirst?_eq_some_iff endMarker_isMark.ne_nil).2 ⟨rfl, hfirst'⟩
    exact Option.bind_eq_some_iff.2 ⟨_, hstart, Option.bind_eq_some_iff.2 ⟨_, hend, rfl⟩⟩

/-- A template is cut at the start marker first. -/
theorem cuts_iff : region.Cuts template ↔
    template = region.before ++ startMarker ++ (region.inside ++ endMarker ++ region.after) := by
  simp [Cuts]

/-- The call region is the first. -/
theorem isFirst_of_find? (h : find? template = some region) : region.IsFirst template := by
  obtain ⟨ht, hfirst, hfirst'⟩ := find?_eq_some_iff.1 h
  refine ⟨cuts_iff.2 ht, fun other hother => ?_, fun other hother hbefore => ?_⟩
  · exact (Text.not_infix_iff_length_le startMarker_ne_nil ht).1 hfirst _ _ (cuts_iff.1 hother)
  · have hrest : region.inside ++ endMarker ++ region.after =
        other.inside ++ endMarker ++ other.after := by
      have heq := ht.symm.trans (cuts_iff.1 hother)
      rwa [hbefore, List.append_right_inj] at heq
    exact (Text.not_infix_iff_length_le endMarker_isMark.ne_nil rfl).1 hfirst' _ _ hrest

/-- There is only one first region. -/
theorem IsFirst.unique (h : region.IsFirst template) (h' : other.IsFirst template) :
    region = other := by
  obtain ⟨before, inside, after⟩ := region
  obtain ⟨before', inside', after'⟩ := other
  have hlen : before.length = before'.length :=
    Nat.le_antisymm (h.before_le _ h'.cuts) (h'.before_le _ h.cuts)
  obtain ⟨rfl, hrest⟩ := Text.cut_inj ((cuts_iff.1 h.cuts).symm.trans (cuts_iff.1 h'.cuts)) hlen
  have hlen' : inside.length = inside'.length :=
    Nat.le_antisymm (h.inside_le _ h'.cuts rfl) (h'.inside_le _ h.cuts rfl)
  obtain ⟨rfl, rfl⟩ := Text.cut_inj hrest hlen'
  rfl

/-- **A template that can be cut has a call region**, whatever other markers stand in it. -/
theorem exists_find?_of_cuts (h : other.Cuts template) :
    ∃ region, find? template = some region := by
  have ht := cuts_iff.1 h
  cases hstart : Text.splitFirst? startMarker template with
  | none =>
    refine absurd ?_ ((Text.splitFirst?_eq_none_iff startMarker_ne_nil).1 hstart)
    exact ht ▸ List.infix_append _ _ _
  | some cut =>
    obtain ⟨before, rest⟩ := cut
    obtain ⟨hcut, hfirst⟩ := (Text.splitFirst?_eq_some_iff startMarker_ne_nil).1 hstart
    have hle := (Text.not_infix_iff_length_le startMarker_ne_nil hcut).1 hfirst _ _ ht
    -- The first start marker stands no further back, so the end marker stands behind it too.
    have hsuffix : other.inside ++ endMarker ++ other.after <:+ rest := by
      refine List.suffix_of_suffix_length_le ⟨_, ht.symm⟩ ⟨_, hcut.symm⟩ ?_
      have hlen := congrArg List.length (hcut.symm.trans ht)
      simp only [List.length_append] at hlen ⊢
      omega
    have hinfix : endMarker <:+: rest := (List.infix_append _ _ _).trans hsuffix.isInfix
    cases hend : Text.splitFirst? endMarker rest with
    | none => exact absurd hinfix ((Text.splitFirst?_eq_none_iff endMarker_isMark.ne_nil).1 hend)
    | some cut' =>
      refine ⟨⟨before, cut'.1, cut'.2⟩, ?_⟩
      exact Option.bind_eq_some_iff.2 ⟨_, hstart, Option.bind_eq_some_iff.2 ⟨_, hend, rfl⟩⟩

/-- **The call region is the first of all.** -/
theorem find?_eq_some_iff_isFirst : find? template = some region ↔ region.IsFirst template := by
  refine ⟨isFirst_of_find?, fun h => ?_⟩
  obtain ⟨found, hfound⟩ := exists_find?_of_cuts h.cuts
  rw [hfound, (isFirst_of_find? hfound).unique h]

/-- A template has no call region exactly if it cannot be cut. -/
theorem find?_eq_none_iff : find? template = none ↔ ∀ region : Region, ¬ region.Cuts template := by
  constructor
  · intro h region hcuts
    obtain ⟨found, hfound⟩ := exists_find?_of_cuts hcuts
    exact Option.some_ne_none found (hfound.symm.trans h)
  · intro h
    cases hfind : find? template with
    | none => rfl
    | some region => exact absurd (isFirst_of_find? hfind).cuts (h region)

/-- What stands inside a region does not matter when it is filled. -/
theorem fill_congr (hbefore : other.before = region.before) (hafter : other.after = region.after) :
    other.fill = region.fill := by
  obtain ⟨before, inside, after⟩ := region
  obtain ⟨before', inside', after'⟩ := other
  cases hbefore
  cases hafter
  rfl

end Region

namespace Options

variable {options : Options} {env : Environment} {text : Text}

/-- A template without a call region is refused before anything happens. -/
theorem inject_of_none (h : Region.find? template = none) :
    options.inject template env = ⟨.error .regionMissing, []⟩ := by
  rw [inject, h]

/-- A template with a call region is filled with the script, with the events of that. -/
theorem inject_of_region (h : Region.find? template = some region) :
    options.inject template env =
      (options.script env).map fun script => .ok (region.fill script) := by
  rw [inject, h]

/-- A template is injected into exactly if it has a call region, which is filled with the script. -/
theorem inject_eq_ok_iff : (options.inject template env).value = .ok text ↔
    ∃ region, Region.find? template = some region ∧
      text = region.fill (options.script env).value := by
  cases h : Region.find? template with
  | none => simp [inject_of_none h]
  | some region => simp [inject_of_region h, Logged.map, eq_comm]

/-- A template without a call region is refused, by any environment alike. -/
theorem inject_eq_error_iff {e : InjectionError} :
    (options.inject template env).value = .error e ↔
      Region.find? template = none ∧ e = .regionMissing := by
  cases h : Region.find? template with
  | none => simp [inject_of_none h, eq_comm]
  | some region => simp [inject_of_region h, Logged.map]

/-- Where the script is put into a template, what happens is what happens on the way to it. -/
theorem events_inject_of_ok (h : (options.inject template env).value = .ok text) :
    (options.inject template env).events = (options.script env).events := by
  obtain ⟨region, hregion, -⟩ := inject_eq_ok_iff.1 h
  rw [inject_of_region hregion]
  rfl

/-- Where there is no call region nothing happens. -/
theorem events_inject_of_error {e : InjectionError}
    (h : (options.inject template env).value = .error e) :
    (options.inject template env).events = [] := by
  rw [inject_of_none (inject_eq_error_iff.1 h).1]

/-! ## Files -/

section Files

variable {write : List UInt8 → WriteOutcome} {file : FileState}

/-- A file that cannot be read is left alone. -/
theorem injectIntoFile_of_unreadable {reason : ReadError} (h : file.readText = .error reason) :
    options.injectIntoFile write file env = ⟨some (.unreadable reason), none, []⟩ := by
  rw [injectIntoFile, h]

/-- A file with a call region is written, as far as the system lets it be. -/
theorem injectIntoFile_of_region (h : file.readText = .ok template)
    (hregion : Region.find? template = some region) :
    options.injectIntoFile write file env =
      let script := options.script env
      let bytes := Text.Utf8.encode (region.fill script.value)
      ⟨(write bytes).fault?.map .unwritable, (write bytes).left? bytes, script.events⟩ := by
  rw [injectIntoFile, h]
  simp only [inject_of_region hregion, Logged.map]

end Files

/-! ## The law -/

/-- **An injection is complete, and touches the call region only.** It succeeds exactly if the
template can be cut at a start marker and an end marker behind it, and otherwise says that the
region is missing. What it writes keeps what stands before the first start marker of the template
and what stands behind the first end marker after it, with the two markers; between them stand a
newline, the lines of the script, each behind the margin, a newline and the margin: what stands
before the start marker on its line, if that is blank, and nothing otherwise. So two templates that
differ only between these markers become the same. -/
theorem injection_complete (options : Options) (template : Text) (env : Environment) :
    let out := options.inject template env
    ((∃ text, out.value = .ok text) ↔ ∃ region : Region, region.Cuts template) ∧
      (out.value = .error .regionMissing ↔ ¬ ∃ region : Region, region.Cuts template) ∧
      (∀ text, out.value = .ok text → ∃ (region : Region) (line margin : Text),
        region.IsFirst template ∧
        (∀ b a, template = b ++ startMarker ++ a → region.before.length ≤ b.length) ∧
        Text.IsLastLine line region.before ∧
        margin = (if Text.allBlank line then line else []) ∧
        text = region.before ++ startMarker ++ "\n" ++
          Text.unlines ((Text.lines (options.script env).value).map (margin ++ ·)) ++ "\n" ++
            margin ++ endMarker ++ region.after ∧
        out.events = (options.script env).events) ∧
      ∀ (template' : Text) (region region' : Region), region.IsFirst template →
        region'.IsFirst template' → region'.before = region.before →
        region'.after = region.after → options.inject template' env = out := by
  intro out
  refine ⟨?_, ?_, fun text htext => ?_, fun template' region region' h h' hbefore hafter => ?_⟩
  · constructor
    · rintro ⟨text, htext⟩
      obtain ⟨region, hregion, -⟩ := inject_eq_ok_iff.1 htext
      exact ⟨region, (Region.isFirst_of_find? hregion).cuts⟩
    · rintro ⟨region, hcuts⟩
      obtain ⟨found, hfound⟩ := Region.exists_find?_of_cuts hcuts
      exact ⟨_, inject_eq_ok_iff.2 ⟨found, hfound, rfl⟩⟩
  · rw [inject_eq_error_iff, Region.find?_eq_none_iff]
    simp
  · obtain ⟨region, hregion, rfl⟩ := inject_eq_ok_iff.1 htext
    obtain ⟨ht, hfirst, -⟩ := Region.find?_eq_some_iff.1 hregion
    exact ⟨region, Text.lastLine region.before, region.margin, Region.isFirst_of_find? hregion,
      (Text.not_infix_iff_length_le startMarker_ne_nil ht).1 hfirst,
      Text.isLastLine_lastLine region.before, rfl, rfl, events_inject_of_ok htext⟩
  · have hout : out = _ := inject_of_region (Region.find?_eq_some_iff_isFirst.2 h)
    rw [hout, inject_of_region (Region.find?_eq_some_iff_isFirst.2 h'),
      Region.fill_congr hbefore hafter]

/-- A template with markers in the wrong order and more of them than two: it is cut at the first
pair, whose inside does not matter. With the end marker in front alone it cannot be cut. -/
theorem injection_complete_standard :
    let region : Region := ⟨endMarker ++ "\n  ", startMarker ++ "old", startMarker ++ endMarker⟩
    let template : Text :=
      region.before ++ startMarker ++ region.inside ++ endMarker ++ region.after
    let template' : Text := region.before ++ startMarker ++ endMarker ++ region.after
    (∃ text, (Options.standard.inject template []).value = .ok text) ∧ region.IsFirst template ∧
      Options.standard.inject template' [] = Options.standard.inject template [] ∧
      ¬ ∃ other : Region, other.Cuts (endMarker ++ startMarker) := by
  intro region template template'
  have hfirst : region.IsFirst template :=
    Region.find?_eq_some_iff_isFirst.1 (by decide +kernel)
  have hfirst' : Region.IsFirst ⟨region.before, [], region.after⟩ template' :=
    Region.find?_eq_some_iff_isFirst.1 (by decide +kernel)
  obtain ⟨hok, -, -, hsame⟩ := injection_complete Options.standard template []
  obtain ⟨-, hmissing, -⟩ := injection_complete Options.standard (endMarker ++ startMarker) []
  exact ⟨hok.2 ⟨region, hfirst.cuts⟩, hfirst, hsame template' _ _ hfirst hfirst' rfl rfl,
    hmissing.1 (by decide +kernel)⟩

end Options

end UiBootstrap

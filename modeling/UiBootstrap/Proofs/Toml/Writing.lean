import Mathlib.Data.Fintype.Basic
import Mathlib.Tactic.FinCases
import UiBootstrap.Proofs.Readers
import UiBootstrap.Toml.Document

/-!
# TOML documents are read back

A document that is written line by line, in the plain way, is read back as the statements that its
lines make (`Toml.statements?_flatMap`). A line is an assignment of a string or a truth value, the
header of a table inside another, or the header of a further table of a list (`Toml.Line`). Strings
stand between double quotes; how their characters are written is left open (`Toml.Spelling`).
-/

namespace UiBootstrap.Toml

/-! ## What is written -/

/-- The ways to write a character of a string between double quotes: as it is, if it is no control
character, quote or backslash; by an escape of its own, if it has one; or by its code. -/
inductive Spells (c : Char) : Text → Prop
  | itself (hcontent : isContent c = true) (hquote : c ≠ '"') (hslash : c ≠ '\\') : Spells c [c]
  | short {sign : Char} (h : shortEscapes.lookup sign = some c) : Spells c ['\\', sign]
  | four {digits : Text} (hlen : digits.length = 4) (hdigits : digits.all isHexDigit = true)
      (hcode : numeral 16 digits = c.toNat) : Spells c ('\\' :: 'u' :: digits)
  | eight {digits : Text} (hlen : digits.length = 8) (hdigits : digits.all isHexDigit = true)
      (hcode : numeral 16 digits = c.toNat) : Spells c ('\\' :: 'U' :: digits)

/-- A way to write every character. -/
structure Spelling where
  write : Char → Text
  spells : ∀ c, Spells c (write c)

/-- A value that has no parts. -/
inductive Atom where
  | text (t : Text)
  | truth (b : Bool)

/-- The value that an atom is. -/
def Atom.value : Atom → Value
  | .text t => .string t
  | .truth b => .boolean b

/-- A line of a document. Keys that stand without quotes are made of letters, digits and two signs.
-/
inductive Line where
  /-- A key, an equals sign and a value. -/
  | assign (key : Text) (v : Atom)
  /-- The header of a table inside another. -/
  | table (parent key : Text)
  /-- The header of a further table of a list. -/
  | element (key : Text)

namespace Line

/-- The statement that a line makes. -/
def statement : Line → Statement
  | .assign key v => .assign [] key v.value
  | .table parent key => .table [parent] key
  | .element key => .element [] key

/-- The key that stands without quotes. -/
def bare : Line → Text
  | .assign key _ => key
  | .table parent _ => parent
  | .element key => key

end Line

namespace Spelling

/-- A string. -/
def quote (s : Spelling) (t : Text) : Text := '"' :: (t.flatMap s.write ++ ['"'])

/-- A value. -/
def atom (s : Spelling) : Atom → Text
  | .text t => s.quote t
  | .truth b => if b then "true" else "false"

/-- A line. -/
def line (s : Spelling) : Line → Text
  | .assign key v => key ++ " = " ++ s.atom v
  | .table parent key => "[" ++ parent ++ "." ++ s.quote key ++ "]"
  | .element key => "[[" ++ key ++ "]]"

/-- A document: every line ends with a newline. -/
def document (s : Spelling) (ls : List Line) : Text := ls.flatMap fun l => s.line l ++ "\n"

end Spelling

/-- Whether a key may stand without quotes. -/
def isBare (key : Text) : Bool := !key.isEmpty && key.all isBareKeyChar

variable {c : Char} {key rest mid cs written : Text} {parts : List Text} {s : Spelling} {l : Line}

/-! ## Strings -/

/-- A character is read back from its code. -/
theorem codePoint?_append {digits : Text} {n : Nat} (hlen : digits.length = n)
    (hdigits : digits.all isHexDigit = true) (hcode : numeral 16 digits = c.toNat) (rest : Text) :
    codePoint? n (digits ++ rest) = some (c, rest) := by
  have hchar : c.toNat.isValidChar := c.valid
  rw [codePoint?, List.take_left' hlen, List.drop_left' hlen, hcode]
  simp [hlen, hdigits, hchar]

/-- **A character is read back from each of its spellings.** -/
theorem basicChar?_of_spells (h : Spells c written) (rest : Text) :
    basicChar? (written ++ rest) = some (c, rest) := by
  cases h with
  | itself hcontent hquote hslash => simp [basicChar?, hslash, hcontent, hquote]
  | @short sign h =>
    have hu : sign ≠ 'u' := by
      rintro rfl
      cases h
    have hU : sign ≠ 'U' := by
      rintro rfl
      cases h
    simp [basicChar?, escape?, hu, hU, h]
  | four hlen hdigits hcode =>
    simp [basicChar?, escape?, codePoint?_append hlen hdigits hcode]
  | eight hlen hdigits hcode =>
    simp [basicChar?, escape?, codePoint?_append hlen hdigits hcode]

/-- A character is written as something that does not start with a quote. -/
theorem Spells.exists_eq_cons (h : Spells c written) : ∃ d ds, written = d :: ds ∧ d ≠ '"' := by
  cases h with
  | itself _ hquote _ => exact ⟨_, _, rfl, hquote⟩
  | short _ => exact ⟨_, _, rfl, by decide⟩
  | four _ _ _ => exact ⟨_, _, rfl, by decide⟩
  | eight _ _ _ => exact ⟨_, _, rfl, by decide⟩

/-- A string starts with a quote. -/
theorem quote_append (s : Spelling) (t rest : Text) :
    s.quote t ++ rest = '"' :: (t.flatMap s.write ++ '"' :: rest) := by
  simp [Spelling.quote]

/-- **A string is read back**, up to its closing quote. -/
theorem quoted?_quote (s : Spelling) (t rest : Text) :
    quoted? (s.quote t ++ rest) = some (t, rest) := by
  rw [quote_append]
  refine shortString?_flatMap rfl fun c _ => ⟨?_, basicChar?_of_spells (s.spells c)⟩
  obtain ⟨d, ds, hds, -⟩ := (s.spells c).exists_eq_cons
  rw [hds]
  exact List.cons_ne_nil d ds

/-- A string over several lines starts with its quote. -/
theorem startsLong_of_ne {quote : Char} (h : c ≠ quote) (cs : Text) :
    startsLong quote (c :: cs) = false := by
  rw [startsLong.eq_def]
  split
  · next heq =>
    obtain ⟨rfl, -⟩ := List.cons.inj heq
    simp [h]
  · rfl

/-- No string looks like one over several lines, if the line ends behind it. -/
theorem startsLong_quote (s : Spelling) (t rest : Text) :
    startsLong '"' (s.quote t ++ '\n' :: rest) = false := by
  rw [quote_append]
  cases t with
  | nil => rfl
  | cons c t =>
    obtain ⟨d, ds, hds, hd⟩ := (s.spells c).exists_eq_cons
    rw [List.flatMap_cons, hds]
    cases h : ds ++ t.flatMap s.write ++ '"' :: '\n' :: rest with
    | nil => simp at h
    | cons e es =>
      rw [List.cons_append, List.cons_append, h]
      simp [startsLong, hd]

/-- **A string is read back as a value**, if the line ends behind it. -/
theorem string?_quote (s : Spelling) (t rest : Text) :
    string? (s.quote t ++ '\n' :: rest) = some (t, '\n' :: rest) := by
  have hlong : startsLong '\'' (s.quote t ++ '\n' :: rest) = false := by
    rw [quote_append]
    exact startsLong_of_ne (by decide) _
  rw [string?, startsLong_quote, hlong]
  exact quoted?_quote s t _

/-- A character in the plain way: as it is, or by a backslash in front of a quote or a backslash, or
by the code of a control character. -/
def plainChar (c : Char) : Text :=
  if c = '"' ∨ c = '\\' then ['\\', c]
  else if c.toNat < 0x20 ∨ c = '\x7f' then
    "\\u00" ++ [Nat.digitChar (c.toNat / 16), Nat.digitChar (c.toNat % 16)]
  else [c]

/-- The plain way is a way to write every character. -/
theorem spells_plainChar (c : Char) : Spells c (plainChar c) := by
  by_cases hcontrol : c.toNat < 0x20
  · refine forall_control (p := fun c => Spells c (plainChar c)) (fun i => ?_) hcontrol
    fin_cases i <;> exact .four rfl rfl rfl
  by_cases hdelete : c = '\x7f'
  · subst hdelete
    exact .four rfl rfl rfl
  by_cases hquote : c = '"'
  · subst hquote
    exact .short rfl
  by_cases hslash : c = '\\'
  · subst hslash
    exact .short rfl
  have hself : plainChar c = [c] := by
    simp [plainChar, hcontrol, hdelete, hquote, hslash]
  have hcode : c.toNat ≠ 0x7F := fun h => hdelete (Char.toNat_inj.1 h)
  have hcontent : isContent c = true := by
    simp only [isContent, Bool.or_eq_true, Bool.and_eq_true, decide_eq_true_eq]
    exact .inr ⟨by omega, hcode⟩
  rw [hself]
  exact .itself hcontent hquote hslash

/-- The plain way to write a string. -/
def Spelling.plain : Spelling := ⟨plainChar, spells_plainChar⟩

/-! ## Keys -/

/-- A key without quotes starts with a character that may stand in it. -/
theorem exists_eq_cons_of_isBare (h : isBare key = true) :
    ∃ c cs, key = c :: cs ∧ isBareKeyChar c = true := by
  cases key with
  | nil => cases h
  | cons c cs =>
    simp only [isBare, List.all_cons, Bool.and_eq_true] at h
    exact ⟨c, cs, rfl, h.2.1⟩

/-- A key without quotes has none in front. -/
theorem quoted?_bare (h : isBare key = true) (rest : Text) : quoted? (key ++ rest) = none := by
  obtain ⟨c, cs, rfl, hc⟩ := exists_eq_cons_of_isBare h
  rw [List.cons_append, quoted?.eq_def]
  split
  · next heq =>
    obtain ⟨rfl, -⟩ := List.cons.inj heq
    cases hc
  · next heq =>
    obtain ⟨rfl, -⟩ := List.cons.inj heq
    cases hc
  · rfl

/-- **A key without quotes is read back**, up to a character that cannot stand in it. -/
theorem keyPart?_bare (h : isBare key = true) (hc : isBareKeyChar c = false) (rest : Text) :
    keyPart? (key ++ c :: rest) = some (key, skipSpacing (c :: rest)) := by
  have hall : ∀ d ∈ key, isBareKeyChar d = true := by
    simp only [isBare, Bool.and_eq_true, List.all_eq_true] at h
    exact h.2
  have hskip : skipSpacing (key ++ c :: rest) = key ++ c :: rest := by
    obtain ⟨d, ds, rfl, hd⟩ := exists_eq_cons_of_isBare h
    refine List.dropWhile_cons_of_neg ?_
    simp [isSpacing, ne_of_holds hd (d := ' ') rfl, ne_of_holds hd (d := '\t') rfl]
  have hbare : (key ++ c :: rest).takeWhile isBareKeyChar = key := by
    rw [List.takeWhile_append_of_pos hall, List.takeWhile_cons_of_neg (by simp [hc]),
      List.append_nil]
  have hrest : (key ++ c :: rest).dropWhile isBareKeyChar = c :: rest := by
    rw [List.dropWhile_append_of_pos hall, List.dropWhile_cons_of_neg (by simp [hc])]
  rw [keyPart?, hskip, simpleKey?, quoted?_bare h]
  simp only [hbare, hrest]
  obtain ⟨d, ds, rfl, -⟩ := exists_eq_cons_of_isBare h
  rfl

/-- **A key in quotes is read back.** -/
theorem keyPart?_quote (s : Spelling) (key rest : Text) :
    keyPart? (s.quote key ++ rest) = some (key, skipSpacing rest) := by
  have hskip : skipSpacing (s.quote key ++ rest) = s.quote key ++ rest := rfl
  rw [keyPart?, hskip, simpleKey?, quoted?_quote]
  rfl

/-- A key of one part. -/
theorem keyPath?_of_keyPart? (h : keyPart? cs = some (key, rest)) (hdot : char? '.' rest = none) :
    keyPath? cs = some (([], key), rest) := by
  rw [keyPath?, separated?_of_none h hdot]
  rfl

/-- A key of two parts, the second in quotes. -/
theorem keyPath?_quote {parent : Text} (h : isBare parent = true) (s : Spelling) (key rest : Text) :
    keyPath? (parent ++ '.' :: (s.quote key ++ ']' :: rest)) =
      some (([parent], key), ']' :: rest) := by
  have hmore : Items (behind? '.' keyPart?) ('.' :: (s.quote key ++ ']' :: rest)) [key]
      (']' :: rest) := by
    have hkey : keyPart? (s.quote key ++ ']' :: rest) = some (key, ']' :: rest) :=
      keyPart?_quote s key _
    refine .next hkey ?_ (.stop rfl)
    simp only [List.length_cons, List.length_append]
    omega
  have hparent : keyPart? (parent ++ '.' :: (s.quote key ++ ']' :: rest)) =
      some (parent, '.' :: (s.quote key ++ ']' :: rest)) := keyPart?_bare h rfl _
  rw [keyPath?, separated?_of_items hparent hmore]
  rfl

/-! ## Lines -/

/-- A value is read back, if the line ends behind it. -/
theorem value?_atom (s : Spelling) (v : Atom) (rest : Text) :
    value? (s.atom v ++ '\n' :: rest) = some (v.value, '\n' :: rest) := by
  cases v with
  | text t =>
    have hread : (string? (s.quote t ++ '\n' :: rest)).map (fun p => (Value.string p.1, p.2)) =
        some (.string t, '\n' :: rest) := by
      rw [string?_quote]
      rfl
    rw [quote_append] at hread
    rw [Spelling.atom, quote_append]
    exact hread
  | truth b => cases b <;> rfl

/-- A value starts with no spacing. -/
theorem skipSpacing_atom (s : Spelling) (v : Atom) (rest : Text) :
    skipSpacing (' ' :: (s.atom v ++ rest)) = s.atom v ++ rest := by
  cases v with
  | text t => rfl
  | truth b => cases b <;> rfl

/-- A line that is a header. -/
theorem line?_of_header {st : Statement} (h : header? ('[' :: cs) = some (st, '\n' :: rest)) :
    line? ('[' :: cs) = some (some st, rest) := by
  have hskip : skipSpacing ('[' :: cs) = '[' :: cs := rfl
  rw [line?, hskip]
  simp [statement?, h]
  rfl

/-- A line that is an assignment. -/
theorem line?_of_assignStatement {st : Statement} (hc : isBareKeyChar c = true)
    (h : assignStatement? (c :: cs) = some (st, '\n' :: rest)) :
    line? (c :: cs) = some (some st, rest) := by
  have hskip : skipSpacing (c :: cs) = c :: cs := by
    refine List.dropWhile_cons_of_neg ?_
    simp [isSpacing, ne_of_holds hc (d := ' ') rfl, ne_of_holds hc (d := '\t') rfl]
  rw [line?, hskip]
  simp [statement?, ne_of_holds hc (d := '#') rfl, ne_of_holds hc (d := '\n') rfl,
    ne_of_holds hc (d := '\r') rfl, ne_of_holds hc (d := '[') rfl, h]
  rfl

/-- **A line is read back** as the statement that it makes. -/
theorem line?_line (hbare : isBare l.bare = true) (s : Spelling) (rest : Text) :
    line? (s.line l ++ '\n' :: rest) = some (some l.statement, rest) := by
  cases l with
  | assign key v =>
    obtain ⟨c, cs, hcs, hc⟩ := exists_eq_cons_of_isBare hbare
    have hpath : keyPath? (key ++ ' ' :: '=' :: ' ' :: (s.atom v ++ '\n' :: rest)) =
        some (([], key), '=' :: ' ' :: (s.atom v ++ '\n' :: rest)) :=
      keyPath?_of_keyPart? (keyPart?_bare hbare rfl _) rfl
    have hassign : assignStatement? (key ++ ' ' :: '=' :: ' ' :: (s.atom v ++ '\n' :: rest)) =
        some (.assign [] key v.value, '\n' :: rest) := by
      rw [assignStatement?, assignment?, hpath]
      simp [char?, skipSpacing_atom, value?_atom]
    have hline : s.line (.assign key v) ++ '\n' :: rest =
        key ++ ' ' :: '=' :: ' ' :: (s.atom v ++ '\n' :: rest) := by
      simp [Spelling.line]
    obtain rfl : key = c :: cs := hcs
    rw [hline]
    exact line?_of_assignStatement hc hassign
  | table parent key =>
    obtain ⟨c, cs, hcs, hc⟩ := exists_eq_cons_of_isBare hbare
    obtain rfl : parent = c :: cs := hcs
    have hline : s.line (.table (c :: cs) key) ++ '\n' :: rest =
        '[' :: (c :: cs ++ '.' :: (s.quote key ++ ']' :: '\n' :: rest)) := by
      simp [Spelling.line]
    have hpath : keyPath? (c :: cs ++ '.' :: (s.quote key ++ ']' :: '\n' :: rest)) =
        some (([c :: cs], key), ']' :: '\n' :: rest) := keyPath?_quote hbare s key _
    have hheader : header? ('[' :: (c :: cs ++ '.' :: (s.quote key ++ ']' :: '\n' :: rest))) =
        some (.table [c :: cs] key, '\n' :: rest) := by
      rw [header?]
      · rw [hpath]
        rfl
      · rintro ds heq
        exact ne_of_holds hc rfl (List.cons.inj heq).1
    rw [hline]
    exact line?_of_header hheader
  | element key =>
    have hpath : keyPath? (key ++ ']' :: ']' :: '\n' :: rest) =
        some (([], key), ']' :: ']' :: '\n' :: rest) :=
      keyPath?_of_keyPart? (keyPart?_bare hbare rfl _) rfl
    have hheader : header? ('[' :: '[' :: (key ++ ']' :: ']' :: '\n' :: rest)) =
        some (.element [] key, '\n' :: rest) := by
      simp [header?, hpath, char?]
    have hline : s.line (.element key) ++ '\n' :: rest =
        '[' :: '[' :: (key ++ ']' :: ']' :: '\n' :: rest) := by
      simp [Spelling.line]
    rw [hline]
    exact line?_of_header hheader

/-! ## Documents -/

/-- A text that has something in it is read line by line. -/
theorem statementsUpTo?_succ (n : Nat) (h : cs ≠ []) {st : Statement}
    (hline : line? cs = some (some st, rest)) :
    statementsUpTo? (n + 1) cs = (statementsUpTo? n rest).map (st :: ·) := by
  cases cs with
  | nil => exact absurd rfl h
  | cons c cs =>
    rw [statementsUpTo?, hline]
    cases hrest : statementsUpTo? n rest with
    | none => simp [hrest]
    | some more => simp [hrest]

/-- **A document is read back** as the statements that its lines make. -/
theorem statements?_document {ls : List Line} (h : ∀ l ∈ ls, isBare l.bare = true) (s : Spelling) :
    statements? (s.document ls) = some (ls.map Line.statement) := by
  -- The bound is the length of the whole document, and holds of what is left of it too.
  have hbound : ∀ n, (s.document ls).length ≤ n →
      statementsUpTo? n (s.document ls) = some (ls.map Line.statement) := by
    induction ls with
    | nil =>
      intro n _
      cases n <;> rfl
    | cons l ls ih =>
      intro n hn
      have hdocument : s.document (l :: ls) = s.line l ++ '\n' :: s.document ls := by
        simp [Spelling.document]
      rw [hdocument] at hn ⊢
      simp only [List.length_append, List.length_cons] at hn
      obtain ⟨m, rfl⟩ : ∃ m, n = m + 1 := ⟨n - 1, by omega⟩
      rw [statementsUpTo?_succ m (by simp) (line?_line (h l List.mem_cons_self) s _),
        ih (fun k hk => h k (List.mem_cons_of_mem l hk)) m (by omega)]
      rfl
  exact hbound _ (Nat.le_refl _)

end UiBootstrap.Toml

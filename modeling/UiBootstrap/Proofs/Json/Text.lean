import Mathlib.Data.Fintype.Basic
import Mathlib.Tactic.FinCases
import UiBootstrap.Proofs.Json.Reader
import UiBootstrap.Proofs.Readers

/-!
# JSON texts are read back

Whatever is written as JSON is read back as what it was (`Json.read?_pretty`): every string with all
its escapes, every number up to the first character that cannot go on with it, and every list and
object, whose items stand on lines of their own (`Json.block`).
-/

namespace UiBootstrap

namespace Json

open Toml (Reader Items)

variable {α : Type} {item : Reader α} {write : α → Text} {close : Char} {as : List α}
  {rest : Text} {depth fuel n : Nat} {j : Json}

/-! ## Strings -/

/-- A character that needs no escape is written as it is. -/
theorem escapeChar_eq_self {c : Char} (hquote : c ≠ '"') (hslash : c ≠ '\\')
    (hcontrol : ¬ c.toNat < 0x20) : escapeChar c = [c] := by
  have hne : ∀ d : Char, d.toNat < 0x20 → c ≠ d := fun d hd hcd => hcontrol (hcd ▸ hd)
  rw [escapeChar, if_neg hquote, if_neg hslash, if_neg (hne '\x08' (by decide)),
    if_neg (hne '\x0c' (by decide)), if_neg (hne '\n' (by decide)), if_neg (hne '\r' (by decide)),
    if_neg (hne '\t' (by decide)), if_neg (by omega), if_neg hcontrol]

/-- **A character of a string is read back**, whatever follows. -/
theorem stringChar?_escapeChar (c : Char) (rest : Text) :
    stringChar? (escapeChar c ++ rest) = some (c, rest) := by
  by_cases hcontrol : c.toNat < 0x20
  · refine forall_control (p := fun c => stringChar? (escapeChar c ++ rest) = some (c, rest))
      (fun i => ?_) hcontrol
    fin_cases i <;> rfl
  by_cases hquote : c = '"'
  · subst hquote
    rfl
  by_cases hslash : c = '\\'
  · subst hslash
    rfl
  simp [escapeChar_eq_self hquote hslash hcontrol, stringChar?, hquote, hslash, hcontrol]

/-- No character of a string is written as nothing. -/
theorem escapeChar_ne_nil (c : Char) : escapeChar c ≠ [] := by
  intro h
  have hread := stringChar?_escapeChar c []
  rw [h] at hread
  cases hread

/-- **A string is read back**, up to its closing quote. -/
theorem string?_flatMap (t rest : Text) :
    string? (t.flatMap escapeChar ++ '"' :: rest) = some (t, rest) :=
  Toml.shortString?_flatMap rfl fun c _ => ⟨escapeChar_ne_nil c, stringChar?_escapeChar c⟩

/-! ## Numbers -/

/-- Whether no number goes on with this text. -/
def isEnd (rest : Text) : Bool := rest.head?.all fun c => !isNumberChar c

/-- Such a text has no part of a number at its front. -/
theorem takeWhile_of_isEnd (h : isEnd rest = true) : rest.takeWhile isNumberChar = [] := by
  cases rest with
  | nil => rfl
  | cons c rest => exact List.takeWhile_cons_of_neg (by simpa [isEnd] using h)

/-- Such a text loses nothing with the part of a number at its front. -/
theorem dropWhile_of_isEnd (h : isEnd rest = true) : rest.dropWhile isNumberChar = rest := by
  cases rest with
  | nil => rfl
  | cons c rest => exact List.dropWhile_cons_of_neg (by simpa [isEnd] using h)

/-- A number is written with digits alone. -/
theorem isDigit_of_mem_decimal {c : Char} (h : c ∈ Text.decimal n) : c.isDigit = true :=
  Nat.isDigit_of_mem_toDigits (by decide) (by decide) h

/-- A number other than zero has no zero in front. -/
theorem head?_decimal_ne (hn : n ≠ 0) : (Text.decimal n).head? ≠ some '0' := by
  induction n using Nat.strongRecOn with
  | ind n ih =>
    rw [Text.decimal, Nat.toDigits_eq_if (by decide)]
    split
    · next hlt =>
      have hdigit : ∀ d < 10, d ≠ 0 → Nat.digitChar d ≠ '0' := by decide
      exact fun h => hdigit n hlt hn (Option.some.inj h)
    · next hge =>
      rw [List.head?_append_of_ne_nil _ Nat.toDigits_ne_nil]
      exact ih (n / 10) (by omega) (by omega)

/-- The digits of a number are read back as that number. -/
theorem natural?_decimal (n : Nat) : natural? (Text.decimal n) = some n := by
  have hall : (Text.decimal n).all Char.isDigit = true :=
    List.all_eq_true.2 fun c hc => isDigit_of_mem_decimal hc
  have hvalue : Nat.ofDigitChars 10 (Text.decimal n) 0 = n := Nat.ofDigitChars_ten_toDigits
  rw [natural?.eq_def]
  split
  · next h => exact absurd h Nat.toDigits_ne_nil
  · next h =>
    by_cases hn : n = 0
    · subst hn
      cases h
    · exact absurd (by rw [h]; rfl) (head?_decimal_ne hn)
  · rw [if_pos hall, hvalue]

/-- **A number is read back**, where it ends. -/
theorem number?_decimal (n : Nat) (h : isEnd rest = true) :
    number? (Text.decimal n ++ rest) = some (.number n, rest) := by
  have hdigits : ∀ c ∈ Text.decimal n, isNumberChar c = true := fun c hc => by
    simp [isNumberChar, isDigit_of_mem_decimal hc]
  rw [number?, List.takeWhile_append_of_pos hdigits, List.dropWhile_append_of_pos hdigits,
    takeWhile_of_isEnd h, dropWhile_of_isEnd h, List.append_nil, natural?_decimal]
  rfl

/-- A number begins with a digit. -/
theorem exists_decimal_eq_cons (n : Nat) : ∃ c cs, Text.decimal n = c :: cs ∧ c.isDigit = true := by
  obtain ⟨c, cs, hcs⟩ := List.exists_cons_of_ne_nil (Nat.toDigits_ne_nil (b := 10) (n := n))
  exact ⟨c, cs, hcs, isDigit_of_mem_decimal (hcs ▸ List.mem_cons_self)⟩

/-- A number is no other word. -/
theorem word?_decimal (n : Nat) (h : isEnd rest = true) :
    word? (Text.decimal n ++ rest) = some (.number n, rest) := by
  obtain ⟨c, cs, hcs, hc⟩ := exists_decimal_eq_cons n
  rw [word?, ← number?_decimal n h, hcs]
  simp [List.isPrefixOf?, (ne_of_holds hc (d := 't') rfl).symm,
    (ne_of_holds hc (d := 'f') rfl).symm]

/-! ## White space -/

/-- A line starts with white space. -/
theorem skipSpace_newline (depth : Nat) (cs : Text) :
    skipSpace (newline depth ++ cs) = skipSpace cs := by
  refine List.dropWhile_append_of_pos fun c hc => ?_
  rcases List.mem_cons.1 hc with rfl | hc
  · rfl
  · rw [List.eq_of_mem_replicate hc]
    rfl

/-- What starts with no white space stays. -/
theorem skipSpace_cons {c : Char} (h : isSpace c = false) (cs : Text) :
    skipSpace (c :: cs) = c :: cs :=
  List.dropWhile_cons_of_neg (by simp [h])

/-! ## Lists and objects -/

/-- The items of a list that stand behind another, each on a line of its own at a depth. -/
def further (depth : Nat) (write : α → Text) (as : List α) : Text :=
  as.flatMap fun a => ',' :: newline depth ++ write a

/-- The items of a list on lines of their own, up to the line on which it is closed. -/
def block (depth : Nat) (write : α → Text) : List α → Text
  | [] => []
  | a :: as => newline (depth + 1) ++ (write a ++ (further (depth + 1) write as ++ newline depth))

/-- Each item has its place in the block. -/
theorem length_le_block {a : α} (depth : Nat) (write : α → Text) (h : a ∈ as) :
    (write a).length ≤ (block depth write as).length := by
  cases as with
  | nil => cases h
  | cons b bs =>
    rcases List.mem_cons.1 h with rfl | hbs
    · simp only [block, List.length_append]
      omega
    · have hle := (List.sublist_flatten_of_mem (List.mem_map_of_mem
        (f := fun a => ',' :: newline (depth + 1) ++ write a) hbs)).length_le
      simp only [block, further, List.flatMap_def, List.length_append, List.length_cons] at hle ⊢
      omega

/-- An item that is read back up to the first character that cannot go on with it. Its text starts
with neither white space nor the bracket that would close the list. -/
structure IsItem (item : Reader α) (write : α → Text) (close : Char) (a : α) : Prop where
  starts : ∃ c cs, write a = c :: cs ∧ isSpace c = false ∧ c ≠ close
  read : ∀ rest, isEnd rest = true → item (write a ++ rest) = some (a, rest)

namespace IsItem

variable {a : α}

/-- The item is read at the start of a line. -/
theorem padded? (h : IsItem item write close a) (depth : Nat) (hrest : isEnd rest = true) :
    padded? item (newline depth ++ (write a ++ rest)) = some (a, skipSpace rest) := by
  obtain ⟨c, cs, hcs, hc, -⟩ := h.starts
  have hread := h.read rest hrest
  rw [hcs] at hread ⊢
  rw [Json.padded?, skipSpace_newline, List.cons_append, skipSpace_cons hc]
  exact congrArg _ hread

/-- No list is closed where the item starts. -/
theorem char?_skipSpace (h : IsItem item write close a) (depth : Nat) (rest : Text) :
    Toml.char? close (skipSpace (newline depth ++ (write a ++ rest))) = none := by
  obtain ⟨c, cs, hcs, hspace, hc⟩ := h.starts
  rw [hcs, skipSpace_newline, List.cons_append, skipSpace_cons hspace]
  exact if_neg hc

end IsItem

/-- No number goes on where an item ends. -/
theorem isEnd_further (depth : Nat) (write : α → Text) (as : List α) (rest : Text) :
    isEnd (further (depth + 1) write as ++ (newline depth ++ rest)) = true := by
  cases as <;> rfl

/-- The items behind the first are taken off, and the line that closes the list is reached. -/
theorem items_further (depth : Nat) (rest : Text) (hspace : isSpace close = false)
    (hcomma : close ≠ ',') (h : ∀ a ∈ as, IsItem item write close a) :
    Items (Toml.behind? ',' (padded? item))
      (skipSpace (further (depth + 1) write as ++ (newline depth ++ close :: rest)))
      as (close :: rest) := by
  induction as with
  | nil =>
    rw [further, List.flatMap_nil, List.nil_append, skipSpace_newline, skipSpace_cons hspace]
    exact .stop (by simp [Toml.behind?, Toml.char?, hcomma])
  | cons a as ih =>
    have hfurther : further (depth + 1) write (a :: as) ++ (newline depth ++ close :: rest) =
        ',' :: (newline (depth + 1) ++
          (write a ++ (further (depth + 1) write as ++ (newline depth ++ close :: rest)))) := by
      simp [further]
    rw [hfurther, skipSpace_cons (by rfl)]
    refine .next ?_ ?_ (ih fun b hb => h b (List.mem_cons_of_mem a hb))
    · exact (h a List.mem_cons_self).padded? (depth + 1) (isEnd_further depth write as _)
    · have hle := (List.dropWhile_sublist isSpace
        (l := further (depth + 1) write as ++ (newline depth ++ close :: rest))).length_le
      simp only [skipSpace, List.length_cons, List.length_append] at hle ⊢
      omega

/-- **The items of a list are read back**, up to the bracket that closes it. -/
theorem items?_block (depth : Nat) (rest : Text) (hspace : isSpace close = false)
    (hcomma : close ≠ ',') (h : ∀ a ∈ as, IsItem item write close a) :
    items? item close (block depth write as ++ close :: rest) = some (as, rest) := by
  cases as with
  | nil => rw [block, List.nil_append, items?, skipSpace_cons hspace, Toml.char?, if_pos rfl]
  | cons a as =>
    have ha := h a List.mem_cons_self
    have hread := ha.padded? (depth + 1) (isEnd_further depth write as (close :: rest))
    have hmore := items_further depth rest hspace hcomma
      fun b hb => h b (List.mem_cons_of_mem a hb)
    simp only [block, List.append_assoc]
    rw [items?, ha.char?_skipSpace]
    simp [Toml.separated?_of_items hread hmore, Toml.char?]

/-! ## Values -/

/-- The text of a member of an object at a depth. -/
def prettyMember (depth : Nat) (m : Text × Json) : Text := quote m.1 ++ (": " ++ pretty depth m.2)

/-- Further items are the same item for item. -/
theorem prettyItems_eq (items : List Json) :
    prettyItems depth items = further depth (pretty depth) items := by
  induction items with
  | nil => rfl
  | cons item items ih => rw [prettyItems, ih, further, further, List.flatMap_cons]; rfl

/-- Further members are the same member for member. -/
theorem prettyMembers_eq (members : List (Text × Json)) :
    prettyMembers depth members = further depth (prettyMember depth) members := by
  induction members with
  | nil => rfl
  | cons m members ih =>
    rw [prettyMembers, ih, further, further, List.flatMap_cons]
    simp [prettyMember]

/-- A list is a block of items in brackets. -/
theorem pretty_array (depth : Nat) (items : List Json) :
    pretty depth (.array items) = '[' :: (block depth (pretty (depth + 1)) items ++ "]") := by
  cases items with
  | nil => rfl
  | cons item items => simp [pretty, block, prettyItems_eq]

/-- An object is a block of members in braces. -/
theorem pretty_object (depth : Nat) (members : List (Text × Json)) :
    pretty depth (.object members) =
      '\x7b' :: (block depth (prettyMember (depth + 1)) members ++ "\x7d") := by
  cases members with
  | nil => rfl
  | cons m members => simp [pretty, block, prettyMembers_eq, prettyMember]

/-- A value starts with neither white space nor the bracket that closes a list. -/
theorem exists_pretty_eq_cons (depth : Nat) (j : Json) :
    ∃ c cs, pretty depth j = c :: cs ∧ isSpace c = false ∧ c ≠ ']' := by
  cases j with
  | bool b => cases b <;> exact ⟨_, _, rfl, by decide, by decide⟩
  | number n =>
    obtain ⟨c, cs, hcs, hc⟩ := exists_decimal_eq_cons n
    refine ⟨c, cs, by rw [pretty, hcs], ?_, ne_of_holds hc rfl⟩
    simp [isSpace, ne_of_holds hc (d := ' ') rfl, ne_of_holds hc (d := '\t') rfl,
      ne_of_holds hc (d := '\n') rfl, ne_of_holds hc (d := '\r') rfl]
  | string t => exact ⟨_, _, rfl, by decide, by decide⟩
  | array items => exact ⟨_, _, pretty_array depth items, by decide, by decide⟩
  | object members => exact ⟨_, _, pretty_object depth members, by decide, by decide⟩

/-- A member is read back, if its value is. -/
theorem member?_prettyMember {value : Reader Json} {m : Text × Json}
    (h : value (pretty depth m.2 ++ rest) = some (m.2, rest)) :
    member? value (prettyMember depth m ++ rest) = some (m, rest) := by
  obtain ⟨c, cs, hcs, hc, -⟩ := exists_pretty_eq_cons depth m.2
  have hskip : skipSpace (' ' :: (pretty depth m.2 ++ rest)) = pretty depth m.2 ++ rest := by
    rw [hcs]
    exact skipSpace_cons hc _
  have hkey : string? (m.1.flatMap escapeChar ++ '"' :: ':' :: ' ' :: (pretty depth m.2 ++ rest)) =
      some (m.1, ':' :: ' ' :: (pretty depth m.2 ++ rest)) := string?_flatMap m.1 _
  have htext : prettyMember depth m ++ rest = '"' :: (m.1.flatMap escapeChar ++
      '"' :: ':' :: ' ' :: (pretty depth m.2 ++ rest)) := by
    simp [prettyMember, quote]
  rw [htext, member?, hkey]
  simp [Toml.char?, skipSpace_cons (c := ':') rfl, hskip, h]

/-- A value that starts with a quote is a string. -/
theorem valueWithin?_quote (fuel : Nat) (cs : Text) : valueWithin? (fuel + 1) ('"' :: cs) =
    (string? cs).map fun (t, rest) => (.string t, rest) := rfl

/-- A value that starts with a bracket is a list. -/
theorem valueWithin?_bracket (fuel : Nat) (cs : Text) : valueWithin? (fuel + 1) ('[' :: cs) =
    (items? (valueWithin? fuel) ']' cs).map fun (items, rest) => (.array items, rest) := rfl

/-- A value that starts with a brace is an object. -/
theorem valueWithin?_brace (fuel : Nat) (cs : Text) : valueWithin? (fuel + 1) ('\x7b' :: cs) =
    (items? (member? (valueWithin? fuel)) '\x7d' cs).map fun (members, rest) =>
      (.object members, rest) := rfl

/-- **A value is read back**, where it ends. -/
theorem valueWithin?_pretty (rest : Text) (hfuel : (pretty depth j).length ≤ fuel)
    (hrest : isEnd rest = true) : valueWithin? fuel (pretty depth j ++ rest) = some (j, rest) := by
  -- What nests in a list or an object has a shorter text than it, so one less will do for it.
  induction fuel generalizing depth j rest with
  | zero =>
    obtain ⟨c, cs, hcs, -⟩ := exists_pretty_eq_cons depth j
    rw [hcs] at hfuel
    cases hfuel
  | succ fuel ih =>
    cases j with
    | bool b => cases b <;> rfl
    | number n =>
      obtain ⟨c, cs, hcs, hc⟩ := exists_decimal_eq_cons n
      rw [pretty, ← word?_decimal n hrest, hcs, List.cons_append, valueWithin?,
        if_neg (ne_of_holds hc rfl), if_neg (ne_of_holds hc rfl), if_neg (ne_of_holds hc rfl)]
    | string t =>
      have htext : pretty depth (.string t) ++ rest =
          '"' :: (t.flatMap escapeChar ++ '"' :: rest) := by
        simp [pretty, quote]
      rw [htext, valueWithin?_quote, string?_flatMap]
      rfl
    | array items =>
      have hitems : ∀ item ∈ items,
          IsItem (valueWithin? fuel) (pretty (depth + 1)) ']' item := fun item hitem => by
        refine ⟨exists_pretty_eq_cons _ _, fun rest hrest => ih rest ?_ hrest⟩
        have := length_le_block depth (pretty (depth + 1)) hitem
        simp only [pretty_array, List.length_cons, List.length_append] at hfuel
        omega
      have hread := items?_block depth rest rfl (by decide) hitems
      rw [pretty_array, List.cons_append, List.append_assoc, valueWithin?_bracket]
      exact congrArg _ hread
    | object members =>
      have hmembers : ∀ m ∈ members,
          IsItem (member? (valueWithin? fuel)) (prettyMember (depth + 1)) '\x7d' m := fun m hm => by
        refine ⟨⟨_, _, rfl, rfl, by decide⟩, fun rest hrest =>
          member?_prettyMember (ih rest ?_ hrest)⟩
        have := length_le_block depth (prettyMember (depth + 1)) hm
        simp only [pretty_object, prettyMember, List.length_cons, List.length_append] at hfuel this
        omega
      have hread := items?_block depth rest rfl (by decide) hmembers
      rw [pretty_object, List.cons_append, List.append_assoc, valueWithin?_brace]
      exact congrArg _ hread

/-- **Every value is read back from its text.** -/
theorem read?_pretty (depth : Nat) (j : Json) : read? (pretty depth j) = some j := by
  obtain ⟨c, cs, hcs, hc, -⟩ := exists_pretty_eq_cons depth j
  have hskip : skipSpace (pretty depth j) = pretty depth j := by
    rw [hcs]
    exact skipSpace_cons hc cs
  have hread := valueWithin?_pretty [] (Nat.le_refl (pretty depth j).length) rfl
  rw [List.append_nil] at hread
  rw [read?, padded?, hskip, hread]
  rfl

end Json

end UiBootstrap

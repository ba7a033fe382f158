import Mathlib.Tactic.SplitIfs
import UiBootstrap.Text.Utf8
import UiBootstrap.File

/-!
# Reading what was encoded

The bytes of a character lead through the states of the reader to that character and leave nothing
pending (`Text.Utf8.scan_utf8EncodeChar`): the first byte settles how many there are, and the bits
of the others are put together. So an encoded text is read back (`Text.Utf8.decode?_encode`), and so
is a file that holds a text (`FileState.readText_ofText`). And since the first byte grows with the
number of bytes, and these with the bits in them, the order of texts by their characters is their
order by their bytes (`Text.le_iff_encode_le`).
-/

namespace UiBootstrap

namespace Text.Utf8

variable {b : Nat} {c : Char} {p : Pending} {byte : UInt8} {bytes : List UInt8}

/-! ## One byte -/

/-- A character of one byte is read at once. -/
theorem scan_of_first_eq_char (h : first byte.toNat = .char c) :
    scan none (byte :: bytes) = some c :: scan none bytes := by
  rw [scan, advance, h]
  rfl

/-- The first byte of several leaves the character pending. -/
theorem scan_of_first_eq_pending (h : first byte.toNat = .pending p) :
    scan none (byte :: bytes) = scan (some p) bytes := by
  rw [scan, advance, h]
  rfl

/-- A further byte in its range, with more to come, adds its bits. -/
theorem scan_pending_succ {value low high more : Nat} (hlow : low ≤ byte.toNat)
    (hhigh : byte.toNat ≤ high) : scan (some ⟨value, low, high, more + 1⟩) (byte :: bytes) =
      scan (some ⟨value * 64 + (byte.toNat - 0x80), 0x80, 0xBF, more⟩) bytes := by
  rw [scan, advance, Pending.next, if_pos ⟨hlow, hhigh⟩]
  rfl

/-- The last byte, in its range, adds its bits and completes the character. -/
theorem scan_pending_zero {value low high : Nat} (hlow : low ≤ byte.toNat)
    (hhigh : byte.toNat ≤ high) : scan (some ⟨value, low, high, 0⟩) (byte :: bytes) =
      some (Char.ofNat (value * 64 + (byte.toNat - 0x80))) :: scan none bytes := by
  rw [scan, advance, Pending.next, if_pos ⟨hlow, hhigh⟩]
  rfl

/-- The first of two bytes. -/
theorem first_of_two (hlow : 0xC2 ≤ b) (hhigh : b < 0xE0) :
    first b = .pending ⟨b - 0xC0, 0x80, 0xBF, 0⟩ := by
  rw [first, if_neg (by omega), if_neg (by omega), if_pos hhigh]

/-- The first of three bytes. -/
theorem first_of_three (hlow : 0xE0 ≤ b) (hhigh : b < 0xF0) : first b = .pending
    ⟨b - 0xE0, if b = 0xE0 then 0xA0 else 0x80, if b = 0xED then 0x9F else 0xBF, 1⟩ := by
  rw [first, if_neg (by omega), if_neg (by omega), if_neg (by omega)]
  by_cases hfirst : b = 0xE0
  · subst hfirst
    rfl
  · by_cases hsurrogate : b = 0xED
    · subst hsurrogate
      rfl
    · rw [if_neg hfirst, if_neg hsurrogate, if_pos hhigh, if_neg hfirst, if_neg hsurrogate]

/-- The first of four bytes. -/
theorem first_of_four (hlow : 0xF0 ≤ b) (hhigh : b ≤ 0xF4) : first b = .pending
    ⟨b - 0xF0, if b = 0xF0 then 0x90 else 0x80, if b = 0xF4 then 0x8F else 0xBF, 2⟩ := by
  obtain rfl | rfl | hmid : b = 0xF0 ∨ b = 0xF4 ∨ 0xF0 < b ∧ b < 0xF4 := by omega
  · rfl
  · rfl
  · rw [first, if_neg (by omega), if_neg (by omega), if_neg (by omega), if_neg (by omega),
      if_neg (by omega), if_neg (by omega), if_neg (by omega), if_pos hmid.2, if_neg (by omega),
      if_neg (by omega)]

/-! ## One character -/

/-- **The bytes of a character are read as that character**, and what follows is read by itself. -/
theorem scan_utf8EncodeChar (c : Char) (bytes : List UInt8) :
    scan none (String.utf8EncodeChar c ++ bytes) = some c :: scan none bytes := by
  have hvalid : c.val.toNat < 0xD800 ∨ 0xDFFF < c.val.toNat ∧ c.val.toNat < 0x110000 := c.valid
  have hc : Char.ofNat c.val.toNat = c := Char.ofNat_toNat c
  rw [String.utf8EncodeChar]
  generalize c.val.toNat = v at hvalid hc ⊢
  have hbyte : ∀ n < 256, (UInt8.ofNat n).toNat = n := fun n hn => UInt8.toNat_ofNat_of_lt' hn
  -- The bytes behind the first, from the last one on: six bits of the code point each.
  have hlast := hbyte (v % 64 + 0x80) (by omega)
  have hsecond := hbyte (v / 64 % 64 + 0x80) (by omega)
  have hthird := hbyte (v / 4096 % 64 + 0x80) (by omega)
  split
  · refine scan_of_first_eq_char ?_
    rw [hbyte v (by omega), first, if_pos (by omega), hc]
  split
  · have hfirst := hbyte (v / 64 % 32 + 0xC0) (by omega)
    have hlead := first_of_two (b := v / 64 % 32 + 0xC0) (by omega) (by omega)
    have hvalue : (v / 64 % 32 + 0xC0 - 0xC0) * 64 + (v % 64 + 0x80 - 0x80) = v := by omega
    simp only [List.cons_append, List.nil_append]
    rw [scan_of_first_eq_pending (hfirst ▸ hlead), scan_pending_zero (by omega) (by omega), hfirst,
      hlast, hvalue, hc]
  split
  · have hfirst := hbyte (v / 4096 % 16 + 0xE0) (by omega)
    have hlead := first_of_three (b := v / 4096 % 16 + 0xE0) (by omega) (by omega)
    have hvalue : ((v / 4096 % 16 + 0xE0 - 0xE0) * 64 + (v / 64 % 64 + 0x80 - 0x80)) * 64 +
        (v % 64 + 0x80 - 0x80) = v := by omega
    simp only [List.cons_append, List.nil_append]
    rw [scan_of_first_eq_pending (hfirst ▸ hlead),
      scan_pending_succ (by split <;> omega) (by split <;> omega),
      scan_pending_zero (by omega) (by omega), hfirst, hsecond, hlast, hvalue, hc]
  · have hfirst := hbyte (v / 262144 % 8 + 0xF0) (by omega)
    have hlead := first_of_four (b := v / 262144 % 8 + 0xF0) (by omega) (by omega)
    have hvalue : (((v / 262144 % 8 + 0xF0 - 0xF0) * 64 + (v / 4096 % 64 + 0x80 - 0x80)) * 64 +
        (v / 64 % 64 + 0x80 - 0x80)) * 64 + (v % 64 + 0x80 - 0x80) = v := by omega
    simp only [List.cons_append, List.nil_append]
    rw [scan_of_first_eq_pending (hfirst ▸ hlead),
      scan_pending_succ (by split <;> omega) (by split <;> omega),
      scan_pending_succ (by omega) (by omega),
      scan_pending_zero (by omega) (by omega), hfirst, hthird, hsecond, hlast, hvalue, hc]

/-! ## Texts and files -/

/-- An encoded text is read character by character. -/
theorem scan_encode (t : Text) : scan none (encode t) = t.map some := by
  induction t with
  | nil => rfl
  | cons c t ih =>
    have hsplit : encode (c :: t) = String.utf8EncodeChar c ++ encode t := rfl
    rw [hsplit, scan_utf8EncodeChar, ih, List.map_cons]

/-- **An encoded text is read back.** -/
theorem decode?_encode (t : Text) : decode? (encode t) = some t := by
  have hpure : t.mapM (m := Option) (fun c => pure (id c)) = pure (t.map id) := List.mapM_pure
  rw [decode?, scan_encode, List.mapM_map]
  exact hpure.trans (congrArg some (List.map_id t))

/-- Texts with the same bytes are the same. -/
theorem encode_injective : Function.Injective encode := fun s t h => by
  have hdecode : decode? (encode s) = decode? (encode t) := congrArg decode? h
  rw [decode?_encode, decode?_encode] at hdecode
  exact Option.some.inj hdecode

/-! ## The order of bytes -/

/-- Bytes are compared one after the other. -/
theorem ofNat_cons_lt_iff {m n : Nat} (hm : m < 256) (hn : n < 256) {bytes bytes' : List UInt8} :
    UInt8.ofNat m :: bytes < UInt8.ofNat n :: bytes' ↔ m < n ∨ m = n ∧ bytes < bytes' := by
  have hm' : (UInt8.ofNat m).toNat = m := UInt8.toNat_ofNat_of_lt' hm
  have hn' : (UInt8.ofNat n).toNat = n := UInt8.toNat_ofNat_of_lt' hn
  rw [List.cons_lt_cons_iff, UInt8.lt_iff_toNat_lt, ← UInt8.toNat_inj, hm', hn']

/-- **Of two characters the one with the lower code point has the lower bytes**, whatever bytes
follow. -/
theorem utf8EncodeChar_append_lt {c d : Char} (h : c.toNat < d.toNat) (bytes bytes' : List UInt8) :
    String.utf8EncodeChar c ++ bytes < String.utf8EncodeChar d ++ bytes' := by
  have hd : d.val.toNat < 0x110000 := by
    have hvalid := d.valid
    omega
  have hlt : c.val.toNat < d.val.toNat := h
  rw [String.utf8EncodeChar, String.utf8EncodeChar]
  generalize c.val.toNat = v at hlt ⊢
  generalize d.val.toNat = w at hd hlt ⊢
  -- The bits are cut off six at a time, so that those of one byte go on where the last one ended.
  have hcut : ∀ n : Nat, n / 4096 = n / 64 / 64 ∧ n / 262144 = n / 64 / 64 / 64 := by omega
  rw [(hcut v).1, (hcut v).2, (hcut w).1, (hcut w).2]
  split_ifs
  all_goals
    simp (disch := omega) only [List.cons_append, List.nil_append, ofNat_cons_lt_iff]
    omega

/-- Texts in order have their bytes in order. -/
theorem encode_le_encode {s t : Text} (h : le s t = true) : encode s ≤ encode t := by
  induction s generalizing t with
  | nil => exact List.nil_le _
  | cons c s ih =>
    cases t with
    | nil => cases h
    | cons d t =>
      simp only [le, Bool.or_eq_true, Bool.and_eq_true, decide_eq_true_eq] at h
      rcases h with hlt | ⟨rfl, h⟩
      · exact List.le_of_lt (utf8EncodeChar_append_lt hlt (encode s) (encode t))
      · exact List.append_left_le (ih h)

end Text.Utf8

/-- **The order of texts is the order of their bytes.** -/
theorem Text.le_iff_encode_le {s t : Text} :
    le s t = true ↔ Utf8.encode s ≤ Utf8.encode t := by
  refine ⟨Utf8.encode_le_encode, fun h => ?_⟩
  rcases le_total s t with hst | hts
  · exact hst
  · obtain rfl : s = t := Utf8.encode_injective (List.le_antisymm h (Utf8.encode_le_encode hts))
    exact hts

/-- A file that holds a text reads as that text. -/
theorem FileState.readText_ofText (t : Text) : (FileState.ofText t).readText = .ok t := by
  rw [ofText, readText, Text.Utf8.decode?_encode]

end UiBootstrap

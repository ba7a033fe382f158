import Mathlib.Algebra.Group.Nat.Defs
import Mathlib.Tactic.SplitIfs
import UiBootstrap.Proofs.Readers
import UiBootstrap.Proofs.Utf8

/-!
# Bytes that encode no text

Bytes are cut into the encodings of characters and, where none stands, into ill-formed parts: the
longest run of bytes that a character starts with, or else one byte (`Text.Utf8.Pieces`). There is
one way only to do so (`Text.Utf8.Pieces.unique`), and the reader takes it
(`Text.Utf8.pieces_scan`): the bits that it has read, with those that may still come, are the code
points of characters whose encoding starts with the bytes that it has read
(`Text.Utf8.Leads`). So it accepts the encodings of texts and nothing else
(`Text.Utf8.decode?_eq_some_iff`).
-/

namespace UiBootstrap.Text.Utf8

variable {part bytes rest : List UInt8} {p : Pending} {b : UInt8} {t : Text} {v : Nat}
  {pieces pieces' : List (Option Char)}

/-! ## What bytes are cut into -/

/-- The bytes are the encoding of a text. -/
def WellFormed (bytes : List UInt8) : Prop := ∃ t, encode t = bytes

/-- The encoding of some character starts with these bytes. -/
def Starts (part : List UInt8) : Prop := ∃ c, part <+: String.utf8EncodeChar c

/-- An ill-formed part, in front of the rest of the bytes: where it stands there is no character,
and it is the longest run of bytes there that one starts with, or else a single byte. -/
structure IsIllFormed (part rest : List UInt8) : Prop where
  ne_nil : part ≠ []
  noChar : ∀ c, ¬ String.utf8EncodeChar c <+: part ++ rest
  starts : Starts part ∨ part.length = 1
  longest : ∀ longer, longer <+: part ++ rest → part.length < longer.length → ¬ Starts longer

/-- Bytes cut into characters and ill-formed parts, for which `none` stands. -/
inductive Pieces : List UInt8 → List (Option Char) → Prop
  | nil : Pieces [] []
  | char (c : Char) {bytes : List UInt8} {pieces : List (Option Char)} :
      Pieces bytes pieces → Pieces (String.utf8EncodeChar c ++ bytes) (some c :: pieces)
  | illFormed {part bytes : List UInt8} {pieces : List (Option Char)} :
      IsIllFormed part bytes → Pieces bytes pieces → Pieces (part ++ bytes) (none :: pieces)

/-- If a character starts with some bytes, it starts with those in front of them. -/
theorem Starts.front {part longer : List UInt8} (h : Starts longer) (hpart : part <+: longer) :
    Starts part := by
  obtain ⟨c, hc⟩ := h
  exact ⟨c, hpart.trans hc⟩

/-! ## The bytes of a code point -/

/-- The last `n` bytes of a code point: six bits each. -/
def furtherBytes (v : Nat) : Nat → List UInt8
  | 0 => []
  | n + 1 => UInt8.ofNat (v / 64 ^ n % 64 + 0x80) :: furtherBytes v n

/-- A byte is known by its number. -/
theorem ofNat_eq {n : Nat} (h : n = b.toNat) : UInt8.ofNat n = b := by
  rw [h]
  exact UInt8.ofNat_toNat

/-- A valid code point is that of its character. -/
theorem toNat_ofNat_of_isValidChar (h : v.isValidChar) : (Char.ofNat v).val.toNat = v := by
  show (Char.ofNat v).toNat = v
  unfold Char.ofNat
  rw [dif_pos h]
  rfl

/-- A character of one byte. -/
theorem utf8EncodeChar_of_one (h : b.toNat < 0x80) :
    String.utf8EncodeChar (Char.ofNat b.toNat) = [b] := by
  have hv : (Char.ofNat b.toNat).val.toNat = b.toNat := toNat_ofNat_of_isValidChar (.inl (by omega))
  unfold String.utf8EncodeChar
  rw [hv, if_pos (by omega), ofNat_eq rfl]

/-- A character of two bytes. -/
theorem utf8EncodeChar_of_two (hlow : 0x80 ≤ v) (hhigh : v < 0x800) (hb : v / 64 + 0xC0 = b.toNat) :
    String.utf8EncodeChar (Char.ofNat v) = [b] ++ furtherBytes v 1 := by
  have hv : (Char.ofNat v).val.toNat = v := toNat_ofNat_of_isValidChar (.inl (by omega))
  have hfirst : UInt8.ofNat (v / 64 % 32 + 0xC0) = b := ofNat_eq (by omega)
  unfold String.utf8EncodeChar
  rw [hv, if_neg (by omega), if_pos (by omega), hfirst]
  simp [furtherBytes]

/-- A character of three bytes. -/
theorem utf8EncodeChar_of_three (hvalid : v.isValidChar) (hlow : 0x800 ≤ v) (hhigh : v < 0x10000)
    (hb : v / 4096 + 0xE0 = b.toNat) :
    String.utf8EncodeChar (Char.ofNat v) = [b] ++ furtherBytes v 2 := by
  have hv : (Char.ofNat v).val.toNat = v := toNat_ofNat_of_isValidChar hvalid
  have hfirst : UInt8.ofNat (v / 4096 % 16 + 0xE0) = b := ofNat_eq (by omega)
  unfold String.utf8EncodeChar
  rw [hv, if_neg (by omega), if_neg (by omega), if_pos (by omega), hfirst]
  simp [furtherBytes]

/-- A character of four bytes. -/
theorem utf8EncodeChar_of_four (hlow : 0x10000 ≤ v) (hhigh : v < 0x110000)
    (hb : v / 262144 + 0xF0 = b.toNat) :
    String.utf8EncodeChar (Char.ofNat v) = [b] ++ furtherBytes v 3 := by
  have hv : (Char.ofNat v).val.toNat = v := toNat_ofNat_of_isValidChar (.inr ⟨by omega, hhigh⟩)
  have hfirst : UInt8.ofNat (v / 262144 % 8 + 0xF0) = b := ofNat_eq (by omega)
  unfold String.utf8EncodeChar
  rw [hv, if_neg (by omega), if_neg (by omega), if_neg (by omega), hfirst]
  simp [furtherBytes]

/-! ## What the reader knows -/

/-- These bytes have led the reader to where a character is pending. The code points that have the
bits read so far in front, and a next byte within the bounds, are characters, and their encodings
are these bytes and the further ones. -/
structure Leads (part : List UInt8) (p : Pending) : Prop where
  ne_nil : part ≠ []
  scan_append : ∀ rest, scan none (part ++ rest) = scan (some p) rest
  bounds : 0x80 ≤ p.low ∧ p.low ≤ p.high ∧ p.high ≤ 0xBF
  encode : ∀ v, v / 64 ^ (p.more + 1) = p.value → p.low ≤ v / 64 ^ p.more % 64 + 0x80 →
    v / 64 ^ p.more % 64 + 0x80 ≤ p.high →
    String.utf8EncodeChar (Char.ofNat v) = part ++ furtherBytes v (p.more + 1)

/-- The first of two bytes. -/
theorem leads_of_two (hlow : 0xC2 ≤ b.toNat) (hhigh : b.toNat < 0xE0) :
    Leads [b] ⟨b.toNat - 0xC0, 0x80, 0xBF, 0⟩ where
  ne_nil := List.cons_ne_nil b []
  scan_append _ := scan_of_first_eq_pending (first_of_two hlow hhigh)
  bounds := by dsimp only; omega
  encode v hv _ _ := by
    have hv : v / 64 = b.toNat - 0xC0 := hv
    exact utf8EncodeChar_of_two (by omega) (by omega) (by omega)

/-- The first of three bytes. -/
theorem leads_of_three (hlow : 0xE0 ≤ b.toNat) (hhigh : b.toNat < 0xF0) :
    Leads [b] ⟨b.toNat - 0xE0, if b.toNat = 0xE0 then 0xA0 else 0x80,
      if b.toNat = 0xED then 0x9F else 0xBF, 1⟩ where
  ne_nil := List.cons_ne_nil b []
  scan_append _ := scan_of_first_eq_pending (first_of_three hlow hhigh)
  bounds := by dsimp only; split_ifs <;> omega
  encode v hv hle hge := by
    have hv : v / 4096 = b.toNat - 0xE0 := hv
    have hle : (if b.toNat = 0xE0 then 0xA0 else 0x80) ≤ v / 64 % 64 + 0x80 := hle
    have hge : v / 64 % 64 + 0x80 ≤ (if b.toNat = 0xED then 0x9F else 0xBF) := hge
    -- The bounds of the second byte leave out the code points of fewer bytes and the surrogates.
    have hbits : 0x800 ≤ v ∧ (v < 0xD800 ∨ 0xDFFF < v) ∧ v < 0x10000 := by
      split_ifs at hle hge <;> omega
    have hvalid : v.isValidChar := by
      rcases hbits.2.1 with hv | hv
      · exact .inl hv
      · exact .inr ⟨hv, by omega⟩
    exact utf8EncodeChar_of_three hvalid hbits.1 hbits.2.2 (by omega)

/-- The first of four bytes. -/
theorem leads_of_four (hlow : 0xF0 ≤ b.toNat) (hhigh : b.toNat ≤ 0xF4) :
    Leads [b] ⟨b.toNat - 0xF0, if b.toNat = 0xF0 then 0x90 else 0x80,
      if b.toNat = 0xF4 then 0x8F else 0xBF, 2⟩ where
  ne_nil := List.cons_ne_nil b []
  scan_append _ := scan_of_first_eq_pending (first_of_four hlow hhigh)
  bounds := by dsimp only; split_ifs <;> omega
  encode v hv hle hge := by
    have hv : v / 262144 = b.toNat - 0xF0 := hv
    have hle : (if b.toNat = 0xF0 then 0x90 else 0x80) ≤ v / 4096 % 64 + 0x80 := hle
    have hge : v / 4096 % 64 + 0x80 ≤ (if b.toNat = 0xF4 then 0x8F else 0xBF) := hge
    have hbits : 0x10000 ≤ v ∧ v < 0x110000 := by
      split_ifs at hle hge <;> omega
    exact utf8EncodeChar_of_four hbits.1 hbits.2 (by omega)

/-- **What a first byte leads to**: a character, a pending one, or nothing. -/
theorem first_cases (b : UInt8) :
    (∃ c, first b.toNat = .char c ∧ String.utf8EncodeChar c = [b]) ∨
      (∃ p, first b.toNat = .pending p ∧ Leads [b] p) ∨ first b.toNat = .malformed := by
  have hb : b.toNat < 256 := b.toNat_lt
  obtain h | h | h | h | h | h : b.toNat < 0x80 ∨ (0x80 ≤ b.toNat ∧ b.toNat < 0xC2) ∨
      (0xC2 ≤ b.toNat ∧ b.toNat < 0xE0) ∨ (0xE0 ≤ b.toNat ∧ b.toNat < 0xF0) ∨
      (0xF0 ≤ b.toNat ∧ b.toNat ≤ 0xF4) ∨ 0xF4 < b.toNat := by omega
  · exact .inl ⟨_, if_pos h, utf8EncodeChar_of_one h⟩
  · refine .inr (.inr ?_)
    unfold first
    rw [if_neg (by omega), if_pos h.2]
  · exact .inr (.inl ⟨_, first_of_two h.1 h.2, leads_of_two h.1 h.2⟩)
  · exact .inr (.inl ⟨_, first_of_three h.1 h.2, leads_of_three h.1 h.2⟩)
  · exact .inr (.inl ⟨_, first_of_four h.1 h.2, leads_of_four h.1 h.2⟩)
  · refine .inr (.inr ?_)
    unfold first
    iterate 9 rw [if_neg (by omega)]

namespace Leads

variable {value low high more : Nat}

/-- A further byte within the bounds, with more to come, leads on. -/
theorem concat (h : Leads part ⟨value, low, high, more + 1⟩) (hlow : low ≤ b.toNat)
    (hhigh : b.toNat ≤ high) :
    Leads (part ++ [b]) ⟨value * 64 + (b.toNat - 0x80), 0x80, 0xBF, more⟩ := by
  obtain ⟨hbound, -, hbound'⟩ : 0x80 ≤ low ∧ low ≤ high ∧ high ≤ 0xBF := h.bounds
  refine ⟨List.append_ne_nil_of_left_ne_nil h.ne_nil _, fun rest => ?_, by dsimp only; omega,
    fun v hv _ _ => ?_⟩
  · rw [List.append_assoc, List.singleton_append, h.scan_append, scan_pending_succ hlow hhigh]
  · have hv : v / 64 ^ (more + 1) = value * 64 + (b.toNat - 0x80) := hv
    have hfront : v / 64 ^ (more + 1 + 1) = value := by
      rw [Nat.pow_succ, ← Nat.div_div_eq_div_mul, hv]
      omega
    have hnext : v / 64 ^ (more + 1) % 64 + 0x80 = b.toNat := by
      rw [hv]
      omega
    rw [h.encode v hfront (hnext ▸ hlow) (hnext ▸ hhigh), List.append_assoc]
    show part ++ (UInt8.ofNat (v / 64 ^ (more + 1) % 64 + 0x80) :: furtherBytes v (more + 1)) = _
    rw [ofNat_eq hnext]
    rfl

/-- The last byte, within the bounds, completes the character. -/
theorem utf8EncodeChar_eq (h : Leads part ⟨value, low, high, 0⟩) (hlow : low ≤ b.toNat)
    (hhigh : b.toNat ≤ high) :
    String.utf8EncodeChar (Char.ofNat (value * 64 + (b.toNat - 0x80))) = part ++ [b] := by
  obtain ⟨hbound, -, hbound'⟩ : 0x80 ≤ low ∧ low ≤ high ∧ high ≤ 0xBF := h.bounds
  generalize hv : value * 64 + (b.toNat - 0x80) = v
  have hfront : v / 64 = value := by omega
  have hnext : v / 64 ^ 0 % 64 + 0x80 = b.toNat := by
    rw [Nat.pow_zero, Nat.div_one]
    omega
  rw [h.encode v hfront (hnext ▸ hlow) (hnext ▸ hhigh)]
  show part ++ [UInt8.ofNat (v / 64 ^ 0 % 64 + 0x80)] = _
  rw [ofNat_eq hnext]

/-- Some character starts with the bytes read so far. -/
theorem starts (h : Leads part p) : Starts part := by
  obtain ⟨hbound, hle, hbound'⟩ := h.bounds
  have hpos : 0 < 64 ^ p.more := Nat.pow_pos (by decide)
  -- The least code point with these bits in front and a next byte within the bounds.
  have hdiv : (p.value * 64 + (p.low - 0x80)) * 64 ^ p.more / 64 ^ p.more =
      p.value * 64 + (p.low - 0x80) := Nat.mul_div_cancel _ hpos
  have hfront : (p.value * 64 + (p.low - 0x80)) * 64 ^ p.more / 64 ^ (p.more + 1) = p.value := by
    rw [Nat.pow_succ, ← Nat.div_div_eq_div_mul, hdiv]
    omega
  have hencode := h.encode _ hfront (by rw [hdiv]; omega) (by rw [hdiv]; omega)
  exact ⟨_, _, hencode.symm⟩

end Leads

/-! ## Where the reader gives up -/

/-- Where the reader finds an ill-formed part there is no character. -/
theorem not_prefix_of_scan (h : scan none bytes = none :: pieces) (c : Char) :
    ¬ String.utf8EncodeChar c <+: bytes := by
  rintro ⟨rest, rfl⟩
  rw [scan_utf8EncodeChar] at h
  cases h

/-- No character starts with bytes where the reader finds an ill-formed part, whatever follows. -/
theorem not_starts_of_scan (h : ∀ rest, ∃ pieces, scan none (part ++ rest) = none :: pieces) :
    ¬ Starts part := by
  rintro ⟨c, rest, hc⟩
  obtain ⟨pieces, hpieces⟩ := h rest
  exact not_prefix_of_scan hpieces c ⟨[], by rw [List.append_nil, hc]⟩

/-- What the reader has read is an ill-formed part, if no character goes on with the next byte. -/
theorem isIllFormed_of_scan (hne : part ≠ []) (hstarts : Starts part ∨ part.length = 1)
    (hscan : scan none (part ++ rest) = none :: pieces)
    (hstop : ∀ b, [b] <+: rest → ¬ Starts (part ++ [b])) : IsIllFormed part rest where
  ne_nil := hne
  noChar := not_prefix_of_scan hscan
  starts := hstarts
  longest longer hlonger hlen hmore := by
    have hpart : part <+: longer :=
      List.prefix_of_prefix_length_le (List.prefix_append part rest) hlonger (Nat.le_of_lt hlen)
    obtain ⟨tail, rfl⟩ := hpart
    cases tail with
    | nil =>
      rw [List.append_nil] at hlen
      exact Nat.lt_irrefl _ hlen
    | cons b tail =>
      have htail : b :: tail <+: rest := (List.prefix_append_right_inj part).1 hlonger
      have hnext : [b] <+: b :: tail := ⟨tail, rfl⟩
      have hfront : part ++ [b] <+: part ++ b :: tail := (List.prefix_append_right_inj part).2 hnext
      exact hstop b (hnext.trans htail) (hmore.front hfront)

/-- A byte that no character starts with is an ill-formed part by itself. -/
theorem scan_of_malformed (h : first b.toNat = .malformed) (bytes : List UInt8) :
    scan none (b :: bytes) = none :: scan none bytes := by
  rw [scan, advance, h]
  rfl

/-- A byte outside the bounds ends an ill-formed part and is read again. -/
theorem scan_of_not_bounds (h : ¬ (p.low ≤ b.toNat ∧ b.toNat ≤ p.high)) (bytes : List UInt8) :
    scan (some p) (b :: bytes) = none :: scan none (b :: bytes) := by
  have hnext : p.next b.toNat = .malformed := if_neg h
  rw [scan, advance, hnext]
  rfl

/-- Such a byte is an ill-formed part, whatever follows. -/
theorem isIllFormed_of_malformed (h : first b.toNat = .malformed) (rest : List UInt8) :
    IsIllFormed [b] rest := by
  have hstarts : ¬ Starts [b] := not_starts_of_scan fun rest => ⟨_, scan_of_malformed h rest⟩
  exact isIllFormed_of_scan (List.cons_ne_nil b []) (.inr rfl) (scan_of_malformed h rest)
    fun b' _ hmore => hstarts (hmore.front (List.prefix_append [b] [b']))

/-- Bytes that end where a character is pending end with an ill-formed part. -/
theorem Leads.isIllFormed_nil (h : Leads part p) : IsIllFormed part [] :=
  isIllFormed_of_scan h.ne_nil (.inl h.starts) (h.scan_append []) fun _ hb => by
    cases List.prefix_nil.1 hb

/-- So do those that go on with a byte outside the bounds. -/
theorem Leads.isIllFormed_cons (h : Leads part p) (hb : ¬ (p.low ≤ b.toNat ∧ b.toNat ≤ p.high))
    (bytes : List UInt8) : IsIllFormed part (b :: bytes) := by
  have hscan : ∀ rest, scan none (part ++ b :: rest) = none :: scan none (b :: rest) := fun rest =>
    (h.scan_append _).trans (scan_of_not_bounds hb rest)
  refine isIllFormed_of_scan h.ne_nil (.inl h.starts) (hscan bytes) fun b' hb' => ?_
  obtain ⟨rfl, -⟩ := List.cons_prefix_cons.1 hb'
  refine not_starts_of_scan fun rest => ⟨scan none (b' :: rest), ?_⟩
  rw [List.append_assoc]
  exact hscan rest

/-! ## All bytes -/

/-- The reader cuts bytes as they are to be cut, between characters and inside of one. -/
theorem pieces_scan_of_leads (bytes : List UInt8) : Pieces bytes (scan none bytes) ∧
    ∀ part p, Leads part p → Pieces (part ++ bytes) (scan (some p) bytes) := by
  induction bytes with
  | nil => exact ⟨.nil, fun part p h => .illFormed h.isIllFormed_nil .nil⟩
  | cons b bytes ih =>
    obtain ⟨hbetween, hinside⟩ := ih
    have hfirst : Pieces (b :: bytes) (scan none (b :: bytes)) := by
      rcases first_cases b with ⟨c, hb, hc⟩ | ⟨p, hb, h⟩ | hb
      · rw [scan_of_first_eq_char hb, ← List.singleton_append, ← hc]
        exact .char c hbetween
      · rw [scan_of_first_eq_pending hb]
        exact hinside [b] p h
      · rw [scan_of_malformed hb]
        exact .illFormed (isIllFormed_of_malformed hb bytes) hbetween
    refine ⟨hfirst, fun part p h => ?_⟩
    by_cases hb : p.low ≤ b.toNat ∧ b.toNat ≤ p.high
    · obtain ⟨value, low, high, more⟩ := p
      cases more with
      | zero =>
        have hc := h.utf8EncodeChar_eq hb.1 hb.2
        rw [scan_pending_zero hb.1 hb.2, ← List.singleton_append, ← List.append_assoc, ← hc]
        exact .char _ hbetween
      | succ more =>
        have hlonger := hinside _ _ (h.concat hb.1 hb.2)
        rw [List.append_assoc, List.singleton_append] at hlonger
        rwa [scan_pending_succ hb.1 hb.2]
    · rw [scan_of_not_bounds hb]
      exact .illFormed (h.isIllFormed_cons hb bytes) hfirst

/-- **The reader cuts bytes as they are to be cut.** -/
theorem pieces_scan (bytes : List UInt8) : Pieces bytes (scan none bytes) :=
  (pieces_scan_of_leads bytes).1

/-- Of two ill-formed parts in one place neither is longer. -/
theorem IsIllFormed.length_le {part part' rest rest' : List UInt8} (h : IsIllFormed part rest)
    (h' : IsIllFormed part' rest') (heq : part ++ rest = part' ++ rest') :
    part'.length ≤ part.length := by
  refine Nat.le_of_not_lt fun hlt => ?_
  have hpos : 0 < part.length := List.length_pos_iff.2 h.ne_nil
  rcases h'.starts with hstarts | hone
  · exact h.longest part' ⟨rest', heq.symm⟩ hlt hstarts
  · omega

/-- **There is one way to cut bytes.** -/
theorem Pieces.unique (h : Pieces bytes pieces) (h' : Pieces bytes pieces') : pieces = pieces' := by
  induction h generalizing pieces' with
  | nil =>
    generalize hbytes : ([] : List UInt8) = bytes at h'
    cases h' with
    | nil => rfl
    | char c _ => exact absurd (List.append_eq_nil_iff.1 hbytes.symm).1 (by simp)
    | illFormed hpart _ => exact absurd (List.append_eq_nil_iff.1 hbytes.symm).1 hpart.ne_nil
  | @char c rest pieces _ ih =>
    generalize hbytes : String.utf8EncodeChar c ++ rest = bytes at h'
    cases h' with
    | nil => exact absurd (List.append_eq_nil_iff.1 hbytes).1 (by simp)
    | @char c' rest' _ h' =>
      have hscan := congrArg (scan none) hbytes
      rw [scan_utf8EncodeChar, scan_utf8EncodeChar] at hscan
      obtain rfl : c = c' := Option.some.inj (List.cons.inj hscan).1
      obtain rfl := List.append_cancel_left hbytes
      rw [ih h']
    | illFormed hpart _ => exact absurd ⟨rest, hbytes⟩ (hpart.noChar c)
  | @illFormed part rest _ hpart _ ih =>
    generalize hbytes : part ++ rest = bytes at h'
    cases h' with
    | nil => exact absurd (List.append_eq_nil_iff.1 hbytes).1 hpart.ne_nil
    | @char c' rest' _ _ => exact absurd ⟨rest', hbytes.symm⟩ (hpart.noChar c')
    | illFormed hpart' h' =>
      have hlen := Nat.le_antisymm (hpart'.length_le hpart hbytes.symm)
        (hpart.length_le hpart' hbytes)
      obtain ⟨rfl, rfl⟩ := List.append_inj hbytes hlen
      rw [ih h']

/-! ## Well-formed bytes -/

/-- Bytes that are cut into characters alone are their encoding. -/
theorem Pieces.encode_eq (h : Pieces bytes (t.map some)) : encode t = bytes := by
  generalize hpieces : t.map some = pieces at h
  induction h generalizing t with
  | nil =>
    obtain rfl := List.map_eq_nil_iff.1 hpieces
    rfl
  | char c _ ih =>
    obtain ⟨c', t, rfl, hc, ht⟩ := List.map_eq_cons_iff.1 hpieces
    obtain rfl : c' = c := Option.some.inj hc
    rw [← ih ht]
    rfl
  | illFormed _ _ _ =>
    obtain ⟨c', t, -, hc, -⟩ := List.map_eq_cons_iff.1 hpieces
    cases hc

/-- **Bytes are read as a text exactly if they are its encoding.** -/
theorem decode?_eq_some_iff : decode? bytes = some t ↔ encode t = bytes := by
  refine ⟨fun h => ?_, fun h => h ▸ decode?_encode t⟩
  have hscan : (scan none bytes).map id = t.map some := mapM_eq_some_iff.1 h
  rw [List.map_id] at hscan
  exact Pieces.encode_eq (hscan ▸ pieces_scan bytes)

/-- Bytes are well-formed exactly if they can be read. -/
theorem wellFormed_iff : WellFormed bytes ↔ (decode? bytes).isSome = true := by
  rw [Option.isSome_iff_exists]
  exact exists_congr fun t => decode?_eq_some_iff.symm

instance : DecidablePred WellFormed := fun _ => decidable_of_iff _ wellFormed_iff.symm

/-- The bytes with U+FFFD for every ill-formed part. -/
theorem decodeLossy_eq (h : Pieces bytes pieces) :
    decodeLossy bytes = pieces.map (·.getD '\uFFFD') := by
  rw [← (pieces_scan bytes).unique h]
  rfl

/-- A text stays as it is. -/
theorem decodeLossy_encode (t : Text) : decodeLossy (encode t) = t := by
  unfold decodeLossy
  rw [scan_encode, List.map_map]
  exact List.map_id t

end UiBootstrap.Text.Utf8

import UiBootstrap.Text.Basic

/-!
# UTF-8

Bytes are read one at a time. `scan` turns them into pieces: a character, or one ill-formed part.
An ill-formed part is as long as the bytes could still have become a character and at least one
byte long, so the byte that breaks a sequence is read again as the start of the next one.

`decode?` accepts the bytes with no ill-formed part; `decodeLossy` puts U+FFFD in place of each.
-/

namespace UiBootstrap.Text.Utf8

/-- A character of which some bytes have been read and some are still to come. -/
structure Pending where
  /-- The bits read so far. -/
  value : Nat
  /-- The smallest byte that may come next. -/
  low : Nat
  /-- The greatest byte that may come next. -/
  high : Nat
  /-- How many bytes come after the next one. -/
  more : Nat
  deriving DecidableEq, Repr

/-- What one byte leads to. -/
inductive Step where
  /-- A character is complete. -/
  | char (c : Char)
  /-- More bytes are to come. -/
  | pending (p : Pending)
  /-- No character goes on like this. -/
  | malformed

/-- The step taken by the first byte of a character. It settles how many bytes there are and, so
that no character has two forms and none lies outside the code points, the range of the second. -/
def first (b : Nat) : Step :=
  if b < 0x80 then .char (Char.ofNat b)
  else if b < 0xC2 then .malformed
  else if b < 0xE0 then .pending ⟨b - 0xC0, 0x80, 0xBF, 0⟩
  else if b = 0xE0 then .pending ⟨0x0, 0xA0, 0xBF, 1⟩
  else if b = 0xED then .pending ⟨0xD, 0x80, 0x9F, 1⟩
  else if b < 0xF0 then .pending ⟨b - 0xE0, 0x80, 0xBF, 1⟩
  else if b = 0xF0 then .pending ⟨0, 0x90, 0xBF, 2⟩
  else if b < 0xF4 then .pending ⟨b - 0xF0, 0x80, 0xBF, 2⟩
  else if b = 0xF4 then .pending ⟨4, 0x80, 0x8F, 2⟩
  else .malformed

/-- The step taken by a further byte. -/
def Pending.next (p : Pending) (b : Nat) : Step :=
  if p.low ≤ b ∧ b ≤ p.high then
    let value := p.value * 64 + (b - 0x80)
    match p.more with
    | 0 => .char (Char.ofNat value)
    | more + 1 => .pending ⟨value, 0x80, 0xBF, more⟩
  else .malformed

/-- What a step that stands at the start of a character adds to the pieces, and what it leaves
pending. -/
def Step.settle : Step → List (Option Char) × Option Pending
  | .char c => ([some c], none)
  | .pending p => ([], some p)
  | .malformed => ([none], none)

/-- What one byte adds to the pieces, and what it leaves pending. -/
def advance : Option Pending → Nat → List (Option Char) × Option Pending
  | none, b => (first b).settle
  | some p, b =>
    match p.next b with
    | .malformed => (none :: (first b).settle.1, (first b).settle.2)
    | step => step.settle

/-- The pieces of a run of bytes: `none` stands for one ill-formed part. -/
def scan : Option Pending → List UInt8 → List (Option Char)
  | none, [] => []
  | some _, [] => [none]
  | pending, b :: bs => (advance pending b.toNat).1 ++ scan (advance pending b.toNat).2 bs

/-- The text of which the bytes are the UTF-8 encoding, if they are well-formed. -/
def decode? (bytes : List UInt8) : Option Text := (scan none bytes).mapM id

/-- The text of the bytes, with U+FFFD for every ill-formed part. -/
def decodeLossy (bytes : List UInt8) : Text := (scan none bytes).map (·.getD '\uFFFD')

/-- The UTF-8 encoding of a text. -/
def encode (t : Text) : List UInt8 := t.flatMap String.utf8EncodeChar

end UiBootstrap.Text.Utf8

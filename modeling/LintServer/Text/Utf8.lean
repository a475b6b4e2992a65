/-
  LintServer.Text.Utf8 — reading bytes as UTF-8.

  The reader is an automaton: between characters, or inside a sequence that still needs some
  continuation bytes, the next of them from a range that the lead byte fixes (so that no
  character has two spellings and none is a surrogate). A byte that cannot go on with the
  open sequence ends it as one malformed part and is then looked at as a first byte.
-/

namespace LintServer.Text.Utf8

/-- An open sequence: how many bytes are missing, what the bytes so far amount to, and the
range of the next byte. -/
structure Pending where
  missing : Nat
  value : Nat
  low : Nat
  high : Nat
  deriving DecidableEq, Repr

/-- What a first byte gives: a finished part, which is none when malformed, or an open
sequence. -/
def first (b : Nat) : Option Char ⊕ Pending :=
  if b < 0x80 then .inl (some (Char.ofNat b))
  else if b < 0xC2 then .inl none
  else if b < 0xE0 then .inr ⟨1, b - 0xC0, 0x80, 0xBF⟩
  else if b = 0xE0 then .inr ⟨2, 0, 0xA0, 0xBF⟩
  else if b = 0xED then .inr ⟨2, 0xD, 0x80, 0x9F⟩
  else if b < 0xF0 then .inr ⟨2, b - 0xE0, 0x80, 0xBF⟩
  else if b = 0xF0 then .inr ⟨3, 0, 0x90, 0xBF⟩
  else if b < 0xF4 then .inr ⟨3, b - 0xF0, 0x80, 0xBF⟩
  else if b = 0xF4 then .inr ⟨3, 4, 0x80, 0x8F⟩
  else .inl none

/-- The parts of the bytes in order; a malformed part is none. -/
def parts : Option Pending → List Nat → List (Option Char)
  | none, [] => []
  | some _, [] => [none]
  | none, b :: bs =>
    match first b with
    | .inl part => part :: parts none bs
    | .inr p => parts (some p) bs
  | some p, b :: bs =>
    if p.low ≤ b ∧ b ≤ p.high then
      let value := p.value * 64 + (b - 0x80)
      if p.missing ≤ 1 then some (Char.ofNat value) :: parts none bs
      else parts (some ⟨p.missing - 1, value, 0x80, 0xBF⟩) bs
    else
      match first b with
      | .inl part => none :: part :: parts none bs
      | .inr q => none :: parts (some q) bs

/-- The text of the bytes, with U+FFFD for each malformed part. -/
def decodeLossy (bytes : List Nat) : List Char :=
  (parts none bytes).map (·.getD (Char.ofNat 0xFFFD))

/-- A malformed part: where it begins, how many bytes it has, and what is wrong. -/
structure Malformed where
  index : Nat
  length : Nat
  why : String
  deriving DecidableEq, Repr

def startTrouble (index : Nat) : Malformed := ⟨index, 1, "invalid start byte"⟩

/-- The first malformed part. `index` is that of the next byte, `taken` the number of bytes
in the open sequence. -/
def malformed? (index taken : Nat) : Option Pending → List Nat → Option Malformed
  | none, [] => none
  | some _, [] => some ⟨index - taken, taken, "unexpected end of data"⟩
  | none, b :: bs =>
    match first b with
    | .inl none => some (startTrouble index)
    | .inl (some _) => malformed? (index + 1) 0 none bs
    | .inr p => malformed? (index + 1) 1 (some p) bs
  | some p, b :: bs =>
    if p.low ≤ b ∧ b ≤ p.high then
      if p.missing ≤ 1 then malformed? (index + 1) 0 none bs
      else malformed? (index + 1) (taken + 1) (some ⟨p.missing - 1, 0, 0x80, 0xBF⟩) bs
    else some ⟨index - taken, taken, "invalid continuation byte"⟩

def encodeChar (c : Char) : List Nat :=
  let n := c.toNat
  if n < 0x80 then [n]
  else if n < 0x800 then [0xC0 + n / 64, 0x80 + n % 64]
  else if n < 0x10000 then [0xE0 + n / 4096, 0x80 + n / 64 % 64, 0x80 + n % 64]
  else [0xF0 + n / 262144, 0x80 + n / 4096 % 64, 0x80 + n / 64 % 64, 0x80 + n % 64]

def encode (cs : List Char) : List Nat := cs.flatMap encodeChar

end LintServer.Text.Utf8

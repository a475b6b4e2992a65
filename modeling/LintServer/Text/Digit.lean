/-
  LintServer.Text.Digit — decimal digits of all scripts.

  Every script with decimal digits has them in one run of ten code points, from zero to
  nine. The table holds the zeros of these runs.
-/

namespace LintServer.Text

def digitZeros : List Nat :=
  [0x660, 0x6F0, 0x7C0, 0x966, 0x9E6, 0xA66, 0xAE6, 0xB66, 0xBE6, 0xC66, 0xCE6, 0xD66, 0xDE6,
   0xE50, 0xED0, 0xF20, 0x1040, 0x1090, 0x17E0, 0x1810, 0x1946, 0x19D0, 0x1A80, 0x1A90,
   0x1B50, 0x1BB0, 0x1C40, 0x1C50, 0xA620, 0xA8D0, 0xA900, 0xA9D0, 0xA9F0, 0xAA50, 0xABF0,
   0xFF10, 0x104A0, 0x10D30, 0x11066, 0x110F0, 0x11136, 0x111D0, 0x112F0, 0x11450, 0x114D0,
   0x11650, 0x116C0, 0x11730, 0x118E0, 0x11950, 0x11C50, 0x11D50, 0x11DA0, 0x16A60, 0x16AC0,
   0x16B50, 0x1D7CE, 0x1D7D8, 0x1D7E2, 0x1D7EC, 0x1D7F6, 0x1E140, 0x1E2F0, 0x1E950, 0x1FBF0]

/-- The value of a decimal digit of any script. -/
def digitValue? (c : Char) : Option Nat :=
  if '0' ≤ c ∧ c ≤ '9' then some (c.toNat - 48)
  else if c.toNat < 128 then none
  else (digitZeros.find? (fun z => z ≤ c.toNat && c.toNat < z + 10)).map (c.toNat - ·)

def isAsciiDigit (c : Char) : Bool := '0' ≤ c && c ≤ '9'

/-- The number that the digits write. -/
def numeral (ds : List Nat) : Nat := ds.foldl (fun n d => 10 * n + d) 0

/-- The number that the characters write in base ten; what is no digit counts nothing. -/
def asciiNumeral (cs : List Char) : Nat := cs.foldl (fun n c => 10 * n + (c.toNat - 48)) 0

/-- The values of a run of digits in which single underscores may stand between digits. -/
def groupedDigits? : List Char → Option (List Nat)
  | [] => none
  | [c] => (digitValue? c).map ([·])
  | c :: '_' :: d :: cs => do
    let v ← digitValue? c
    let vs ← groupedDigits? (d :: cs)
    return v :: vs
  | c :: d :: cs => do
    let v ← digitValue? c
    let vs ← groupedDigits? (d :: cs)
    return v :: vs

/-- The greatest number of decimal digits that a number is read from or written with. -/
def maxDigits : Nat := 4300

/-- Whether a number has few enough decimal digits to be written. -/
def isWritable (n : Nat) : Bool := n < Nat.pow 10 maxDigits

/-- What is said of a number with too many digits. -/
def tooManyDigits (digits : Nat) : String :=
  "Exceeds the limit (4300 digits) for integer string conversion: value has " ++
    toString digits ++ " digits; use sys.set_int_max_str_digits() to increase the limit"

end LintServer.Text

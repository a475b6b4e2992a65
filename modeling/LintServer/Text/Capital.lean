/-
  LintServer.Text.Capital — capital forms within ASCII.

  The full capital mapping of Unicode sends ten characters outside ASCII to ASCII letters:
  the sharp s, the dotless i, the long s and seven ligatures. Every other character outside
  ASCII has a capital form outside ASCII, and is left as it is: no word of ASCII letters
  can then come out of it.
-/

namespace LintServer.Text

def capitalChar (c : Char) : List Char :=
  if 'a' ≤ c ∧ c ≤ 'z' then [Char.ofNat (c.toNat - 32)]
  else match c.toNat with
    | 0xDF => ['S', 'S']
    | 0x131 => ['I']
    | 0x17F => ['S']
    | 0xFB00 => ['F', 'F']
    | 0xFB01 => ['F', 'I']
    | 0xFB02 => ['F', 'L']
    | 0xFB03 => ['F', 'F', 'I']
    | 0xFB04 => ['F', 'F', 'L']
    | 0xFB05 => ['S', 'T']
    | 0xFB06 => ['S', 'T']
    | _ => [c]

def capitals (s : String) : String := String.ofList (s.toList.flatMap capitalChar)

end LintServer.Text

/-
  LintServer.Json.Number — numbers out of values.

  An integer can come from a truth value, from a number, whose fraction is dropped, and from
  a text: blanks, a sign, and digits with single underscores between them, no more than can be
  read.
-/

import LintServer.Json.Shape
import LintServer.Text.Digit

namespace LintServer.Json

/-- The sign at the front, and what follows it. -/
def takeSign : List Char → Bool × List Char
  | '-' :: cs => (true, cs)
  | '+' :: cs => (false, cs)
  | cs => (false, cs)

/-- What is said of a number with more digits than are read. -/
def longNumber (digits : Nat) : Failure :=
  .saying .badValue (Text.tooManyDigits digits)

/-- The integer that a text writes. Digits are counted before what follows them is looked at. -/
def integerOf (s : String) : Except Failure Int := do
  let refused : Failure := .saying .badValue
    ("invalid literal for int() with base 10: " ++ String.ofList ((Text.quoted s).toList.take 200))
  let (negative, body) := takeSign (Text.trimBy Text.isNumberBlank s.toList)
  let (run, rest) := body.span fun c => c == '_' || (Text.digitValue? c).isSome
  match Text.groupedDigits? run with
  | none => throw refused
  | some digits =>
    if Text.maxDigits < digits.length then throw (longNumber digits.length)
    if !rest.isEmpty then throw refused
    let n : Int := Text.numeral digits
    return if negative then -n else n

def toInt : Json → Except Failure Int
  | .bool b => .ok (ofBool b)
  | .int n => .ok n
  | .float .nan => wrong .badValue "cannot convert float NaN to integer"
  | .float (.infinite _) => wrong .outOfRange "cannot convert float infinity to integer"
  | .float x => .ok (x.truncated?.getD 0)
  | .str s => integerOf s
  | v => wrong .wrongType
      ("int() argument must be a string, a bytes-like object or a real number, not '" ++
        v.typeName ++ "'")

/-- The integer in a field, 0 when it counts as not given. -/
def count (v : Json) : Except Failure Int := (v.orElse (.int 0)).toInt

/-- The floating point number that a text writes: blanks around it, a sign, digits with
single underscores between them, a point, an exponent, or a word for what is not finite. -/
def floatOf? (s : String) : Option Double := do
  let (negative, body) := takeSign (Text.trimBy Text.isNumberBlank s.toList)
  let word := body.map (fun c => if 'A' ≤ c ∧ c ≤ 'Z' then Char.ofNat (c.toNat + 32) else c)
  if word = "inf".toList ∨ word = "infinity".toList then return .infinite negative
  if word = "nan".toList then return .nan
  let (mantissa, exponent) := body.span (fun c => c != 'e' && c != 'E')
  let (whole, fraction) := mantissa.span (· != '.')
  let run (cs : List Char) : Option (List Nat) :=
    if cs.isEmpty then some [] else Text.groupedDigits? cs
  let whole ← run whole
  let fraction ← run (fraction.drop 1)
  if whole.isEmpty && fraction.isEmpty then failure
  let power : Int ← match exponent with
    | [] => pure 0
    | _ :: rest => do
      let (down, digits) := takeSign rest
      let digits ← Text.groupedDigits? digits
      let n : Int := Text.numeral digits
      pure (if down then -n else n)
  return Double.ofDecimal negative (Text.numeral (whole ++ fraction)) (power - fraction.length)

end LintServer.Json

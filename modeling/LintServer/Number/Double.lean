/-
  LintServer.Number.Double — binary floating point numbers of 64 bits, exactly.

  A finite number is `± mantissa · 2 ^ exponent`, with a mantissa below 2^53 and an exponent
  from -1074 to 971; the mantissa is at least 2^52 unless the exponent is -1074, so each
  number has one form (the two zeros apart). Reading a decimal and adding are exact, then
  rounded to the nearest number, a tie to the even mantissa.
-/

namespace LintServer

inductive Double where
  | nan
  | infinite (negative : Bool)
  | finite (negative : Bool) (mantissa : Nat) (exponent : Int)
  deriving DecidableEq, Repr, Inhabited

namespace Double

/-- The power `2 ^ n`. -/
def twoPow (n : Nat) : Nat := Nat.pow 2 n

/-- The power `10 ^ n`. -/
def tenPow (n : Nat) : Nat := Nat.pow 10 n

def leastExponent : Int := -1074
def greatestExponent : Int := 971

def zero (negative : Bool) : Double := .finite negative 0 leastExponent

/-- The quotient rounded to the nearest integer, a tie to the even one. -/
def roundedQuotient (num den : Nat) : Nat :=
  let q := num / den
  let r := num % den
  if 2 * r < den then q else if den < 2 * r then q + 1 else q + q % 2

/-- The ratio of `num` to `den · 2 ^ e`. -/
def scaled (num den : Nat) (e : Int) : Nat × Nat :=
  if 0 ≤ e then (num, den * twoPow e.toNat) else (num * twoPow (-e).toNat, den)

/-- The number nearest to `± num / den`. -/
def ofRatio (negative : Bool) (num den : Nat) : Double :=
  if num = 0 ∨ den = 0 then zero negative
  else
    let guess : Int := (num.log2 : Int) - (den.log2 : Int) - 53
    let low := max guess leastExponent
    let (n₀, d₀) := scaled num den low
    let e := if twoPow 53 ≤ n₀ / d₀ then low + 1 else low
    let (n, d) := scaled num den e
    let m := roundedQuotient n d
    let (m, e) := if m = twoPow 53 then (twoPow 52, e + 1) else (m, e)
    if greatestExponent < e then .infinite negative else .finite negative m e

/-- The number of decimal digits, with none for zero. -/
def decimalWidth (n : Nat) : Nat := if n = 0 then 0 else (Nat.toDigits 10 n).length

/-- The number nearest to `± digits · 10 ^ power`. Beyond 400 places on either side the
result is infinite or zero whatever the digits are. -/
def ofDecimal (negative : Bool) (digits : Nat) (power : Int) : Double :=
  if digits = 0 then zero negative
  else
    let place := power + decimalWidth digits
    if 400 < place then .infinite negative
    else if place < -400 then zero negative
    else if 0 ≤ power then ofRatio negative (digits * tenPow power.toNat) 1
    else ofRatio negative digits (tenPow (-power).toNat)

def ofInt (n : Int) : Double := ofRatio (n < 0) n.natAbs 1

def isZero : Double → Bool
  | .finite _ m _ => m == 0
  | _ => false

/-- How many of the smallest units, 2^-1074, one is. -/
def ticksOfOne : Nat := twoPow 1074

/-- A finite number as an integer multiple of 2^-1074. -/
def ticks? : Double → Option Int
  | .finite negative m e =>
    let t : Int := (m * twoPow (e - leastExponent).toNat : Nat)
    some (if negative then -t else t)
  | _ => none

def less (a b : Double) : Bool :=
  match a, b with
  | .nan, _ => false
  | _, .nan => false
  | .infinite na, .infinite nb => na && !nb
  | .infinite na, .finite .. => na
  | .finite .., .infinite nb => !nb
  | .finite .., .finite .. =>
    match a.ticks?, b.ticks? with
    | some s, some t => s < t
    | _, _ => false

def add (a b : Double) : Double :=
  match a, b with
  | .nan, _ => .nan
  | _, .nan => .nan
  | .infinite na, .infinite nb => if na == nb then .infinite na else .nan
  | .infinite na, .finite .. => .infinite na
  | .finite .., .infinite nb => .infinite nb
  | .finite na ma _, .finite nb mb _ =>
    match a.ticks?, b.ticks? with
    | some s, some t =>
      if s + t = 0 then zero (na && nb && ma == 0 && mb == 0)
      else ofRatio (s + t < 0) (s + t).natAbs ticksOfOne
    | _, _ => .nan

/-- A finite number without its fraction. -/
def truncated? (x : Double) : Option Int :=
  x.ticks?.map (fun t => t.tdiv ticksOfOne)

/-- The integer that a finite number is, if it is one. -/
def exactInt? (x : Double) : Option Int :=
  x.ticks?.bind (fun t => if t % ticksOfOne = 0 then some (t / ticksOfOne) else none)

end Double

end LintServer

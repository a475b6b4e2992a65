/-
  LintServer.Number.Shortest — the shortest decimal that reads back as a number.

  Around each finite number lies the interval of reals that round to it; its ends belong to
  it when the mantissa is even. For 1, 2, … 17 digits the two neighbours of the number on
  that decimal grid are tried: the first grid with a hit wins, and of two hits the nearer
  one, a tie going to the even digit.

  Written out, the point stands among the digits when the number is at least 1e-4 and below
  1e16, with at least one digit after it; otherwise the exponent has a sign and at least two
  digits.
-/

import LintServer.Number.Double

namespace LintServer.Double

/-- A decimal `digits · 10 ^ power`. -/
structure Decimal where
  digits : Nat
  power : Int
  deriving DecidableEq, Repr

/-- The interval of reals that round to a number, over the denominator `den`. -/
structure Interval where
  low : Nat
  value : Nat
  high : Nat
  den : Nat
  closed : Bool

def interval (m : Nat) (e : Int) : Interval :=
  let up := twoPow (e - 2).toNat
  let below := if m = twoPow 52 ∧ leastExponent < e then 1 else 2
  { low := (4 * m - below) * up
    value := 4 * m * up
    high := (4 * m + 2) * up
    den := twoPow (2 - e).toNat
    closed := m % 2 == 0 }

/-- The `k` with `10 ^ (k - 1) ≤ num / den < 10 ^ k`. -/
def place (num den : Nat) : Int :=
  let k : Int := (decimalWidth num : Int) - decimalWidth den
  let atLeast := if 0 ≤ k then den * tenPow k.toNat ≤ num else den ≤ num * tenPow (-k).toNat
  if atLeast then k + 1 else k

/-- The two sides of `d · 10 ^ power` against `num / den`, over a common denominator. -/
def sides (i : Interval) (d : Nat) (power : Int) (num : Nat) : Nat × Nat :=
  if 0 ≤ power then (d * tenPow power.toNat * i.den, num)
  else (d * i.den, num * tenPow (-power).toNat)

def Interval.holds (i : Interval) (d : Nat) (power : Int) : Bool :=
  let (a, low) := sides i d power i.low
  let (_, high) := sides i d power i.high
  if i.closed then low ≤ a && a ≤ high else low < a && a < high

/-- The neighbour of the value on the grid of `10 ^ power` that rounds back to it. -/
def Interval.hit? (i : Interval) (power : Int) : Option Nat :=
  let (unit, value) := sides i 1 power i.value
  let d := value / unit
  match i.holds d power, i.holds (d + 1) power with
  | true, true =>
    let r := value % unit
    some (if 2 * r < unit then d else if unit < 2 * r then d + 1 else d + d % 2)
  | true, false => some d
  | false, true => some (d + 1)
  | false, false => none

def withoutZeros : (fuel : Nat) → Decimal → Decimal
  | 0, x => x
  | fuel + 1, x =>
    if x.digits % 10 = 0 then withoutZeros fuel { digits := x.digits / 10, power := x.power + 1 }
    else x

/-- Tries grids of ever more digits, `left` of them, beginning at `10 ^ power`. -/
def search (i : Interval) : (left : Nat) → (power : Int) → Decimal
  | 0, power => { digits := i.value / i.den, power }
  | left + 1, power =>
    match i.hit? power with
    | some d => { digits := d, power }
    | none => search i left (power - 1)

/-- The shortest decimal of `m · 2 ^ e`, for a mantissa above zero. -/
def shortest (m : Nat) (e : Int) : Decimal :=
  let i := interval m e
  withoutZeros 20 (search i 17 (place i.value i.den - 1))

def zeros (n : Nat) : List Char := List.replicate n '0'

/-- The digits with the point `point` places after the first digit's left side. -/
def positional (digits : List Char) (point : Int) : List Char :=
  if point ≤ 0 then '0' :: '.' :: (zeros (-point).toNat ++ digits)
  else if (digits.length : Int) ≤ point then
    digits ++ zeros (point.toNat - digits.length) ++ ['.', '0']
  else digits.take point.toNat ++ '.' :: digits.drop point.toNat

def withExponent (digits : List Char) (exponent : Int) : List Char :=
  let mantissa := match digits with
    | [] => []
    | [d] => [d]
    | d :: rest => d :: '.' :: rest
  let size := Nat.toDigits 10 exponent.natAbs
  let padded := if size.length < 2 then '0' :: size else size
  mantissa ++ 'e' :: (if exponent < 0 then '-' else '+') :: padded

def finiteText (m : Nat) (e : Int) : List Char :=
  if m = 0 then ['0', '.', '0']
  else
    let x := shortest m e
    let digits := Nat.toDigits 10 x.digits
    let point : Int := digits.length + x.power
    if -4 < point ∧ point ≤ 16 then positional digits point else withExponent digits (point - 1)

def text : Double → String
  | .nan => "nan"
  | .infinite negative => if negative then "-inf" else "inf"
  | .finite negative m e =>
    String.ofList (if negative then '-' :: finiteText m e else finiteText m e)

end LintServer.Double

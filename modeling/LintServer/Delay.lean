/-
  LintServer.Delay — lengths of time, and how far a clock has come.

  A length of time is a whole number of seconds or a floating point number of them. Whole
  numbers are added exactly, and as soon as there is a floating point number the sum is one.
  Lengths are compared by their exact values, whichever way they are given.
-/

import LintServer.Failure
import LintServer.Text.Digit

namespace LintServer

/-- A length of time in seconds. -/
inductive Delay where
  | whole (n : Int)
  | fraction (x : Double)
  deriving DecidableEq, Repr

namespace Delay

def text : Delay → String
  | .whole n => toString n
  | .fraction x => x.text

def isNegative : Delay → Bool
  | .whole n => n < 0
  | .fraction x => x.less (Double.zero false)

/-- The floating point number nearest to a length, unless it is beyond all of them. -/
def seconds : Delay → Except Failure Double
  | .fraction x => .ok x
  | .whole n =>
    match Double.ofInt n with
    | .infinite _ => .error (.saying .outOfRange "int too large to convert to float")
    | x => .ok x

def add : Delay → Delay → Except Failure Delay
  | .whole m, .whole n => .ok (.whole (m + n))
  | a, b => do return .fraction ((← a.seconds).add (← b.seconds))

/-- The exact value in units of which all floating point numbers are multiples. -/
def ticks? : Delay → Option Int
  | .whole n => some (n * Double.ticksOfOne)
  | .fraction x => x.ticks?

/-- Whether a length is at most as long as another. What is no number is neither longer nor
shorter than anything. -/
def atMost (a b : Delay) : Bool :=
  match a, b with
  | .fraction .nan, _ => false
  | _, .fraction .nan => false
  | .fraction (.infinite true), _ => true
  | _, .fraction (.infinite false) => true
  | a, b =>
    match a.ticks?, b.ticks? with
    | some s, some t => s ≤ t
    | _, _ => false

def isNaN : Delay → Bool
  | .fraction .nan => true
  | _ => false

/-- Whether a time has come by a clock, which it has unless it lies ahead. What is no number lies
ahead of nothing. -/
def hasCome (due now : Delay) : Bool := due.isNaN || now.isNaN || due.atMost now

/-- One second. -/
def second : Delay := .fraction (Double.ofInt 1)

def zero : Delay := .whole 0

instance : Inhabited Delay := ⟨second⟩

end Delay

end LintServer

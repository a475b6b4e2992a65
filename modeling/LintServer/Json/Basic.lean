/-
  LintServer.Json.Basic — values of the JSON data format.

  Integers and floating point numbers are told apart by how they are written. The fields of
  an object keep the order of the text; a field that comes twice has its last value in its
  first place. Dates and times stand among the values because configuration files have them;
  JSON text has none.
-/

import LintServer.Calendar
import LintServer.Number.Double
import LintServer.Table
import LintServer.Text.Digit

namespace LintServer

inductive Json where
  | null
  | bool (b : Bool)
  | int (n : Int)
  | float (x : Double)
  | str (s : String)
  | stamp (s : Stamp)
  | arr (items : List Json)
  | obj (fields : List (String × Json))
  deriving Repr, Inhabited

namespace Json

/-- How far reading and writing go: the digits of an integer, and the levels of nesting. -/
structure Limits where
  digits : Nat := Text.maxDigits
  depth : Nat := 988
  deriving DecidableEq, Repr

/-- Whether a value counts as given: everything but null, false, zero and the empty ones. -/
def isTruthy : Json → Bool
  | .null => false
  | .bool b => b
  | .int n => n != 0
  | .float x => !x.isZero
  | .str s => !s.isEmpty
  | .stamp _ => true
  | .arr items => !items.isEmpty
  | .obj fields => !fields.isEmpty

def isNull : Json → Bool
  | .null => true
  | _ => false

/-- The value, unless it counts as not given. -/
def orElse (v : Json) (other : Json) : Json := if v.isTruthy then v else other

/-- The field of an object, null when it has none. -/
def field (fields : List (String × Json)) (name : String) : Json :=
  (Table.get? fields name).getD .null

/-- Truth values count as the integers 0 and 1. -/
def ofBool (b : Bool) : Int := if b then 1 else 0

def numbersAgree : Json → Json → Bool
  | .int a, .int b => a == b
  | .int a, .float y => y.exactInt? == some a
  | .float x, .int b => x.exactInt? == some b
  | .float x, .float y => !x.less y && !y.less x && x != .nan && y != .nan
  | _, _ => false

def asNumber : Json → Json
  | .bool b => .int (ofBool b)
  | v => v

def bothNaN : Json → Json → Bool
  | .float .nan, .float .nan => true
  | _, _ => false

mutual

/-- Equality of meaning: numbers by their value, whichever way they are written, and objects
whatever the order of their fields. What is no number agrees with itself only inside another
value. -/
def agrees : Json → Json → Bool
  | .null, w => w.isNull
  | .str s, .str t => s == t
  | .str _, _ => false
  | .stamp s, .stamp t => s == t
  | .stamp _, _ => false
  | .arr vs, .arr ws => agreeItems vs ws
  | .arr _, _ => false
  | .obj vs, .obj ws => vs.length == ws.length && agreeFields vs ws
  | .obj _, _ => false
  | .bool b, w => numbersAgree (.int (ofBool b)) (asNumber w)
  | .int n, w => numbersAgree (.int n) (asNumber w)
  | .float x, w => numbersAgree (.float x) (asNumber w)

def agreeItems : List Json → List Json → Bool
  | [], ws => ws.isEmpty
  | _ :: _, [] => false
  | v :: vs, w :: ws => (bothNaN v w || agrees v w) && agreeItems vs ws

def agreeFields : List (String × Json) → List (String × Json) → Bool
  | [], _ => true
  | (k, v) :: vs, ws =>
    (match Table.get? ws k with
      | some w => bothNaN v w || agrees v w
      | none => false) && agreeFields vs ws

end

end Json

end LintServer

/-
  LintServer.Calendar — days of the calendar and times of day.

  A stamp is a day, a time of day to the millionth of a second, or both. Where it is both, the
  distance from universal time can be known; it is given in minutes, and is less than a day.
  On its own a stamp is shown the way dates are written; inside other values it is shown with
  its parts by name.
-/

import LintServer.Text.Blank

namespace LintServer

structure Day where
  year : Nat
  month : Nat
  day : Nat
  deriving DecidableEq, Repr

structure TimeOfDay where
  hour : Nat
  minute : Nat
  second : Nat
  micros : Nat := 0
  deriving DecidableEq, Repr

inductive Stamp where
  | day (d : Day)
  | time (t : TimeOfDay)
  | both (d : Day) (t : TimeOfDay) (offset : Option Int)
  deriving DecidableEq, Repr

/-- The digits of a number, with zeros in front as far as they are needed. -/
def padded (width n : Nat) : String :=
  let digits := Nat.toDigits 10 n
  String.ofList (List.replicate (width - digits.length) '0' ++ digits)

namespace Day

def isLeap (year : Nat) : Bool := year % 4 == 0 && (year % 100 != 0 || year % 400 == 0)

def daysIn (year month : Nat) : Nat :=
  if month = 2 then (if isLeap year then 29 else 28)
  else if month = 4 ∨ month = 6 ∨ month = 9 ∨ month = 11 then 30
  else 31

/-- Whether there is such a day; there is no year 0. -/
def isReal (d : Day) : Bool :=
  1 ≤ d.year && 1 ≤ d.month && d.month ≤ 12 && 1 ≤ d.day && d.day ≤ daysIn d.year d.month

def text (d : Day) : String :=
  padded 4 d.year ++ "-" ++ padded 2 d.month ++ "-" ++ padded 2 d.day

def parts (d : Day) : List Nat := [d.year, d.month, d.day]

end Day

namespace TimeOfDay

def text (t : TimeOfDay) : String :=
  padded 2 t.hour ++ ":" ++ padded 2 t.minute ++ ":" ++ padded 2 t.second ++
    (if t.micros = 0 then "" else "." ++ padded 6 t.micros)

/-- The parts of a time; what is zero at the end is left out, from the seconds on. -/
def parts (t : TimeOfDay) : List Nat :=
  if t.micros ≠ 0 then [t.hour, t.minute, t.second, t.micros]
  else if t.second ≠ 0 then [t.hour, t.minute, t.second]
  else [t.hour, t.minute]

end TimeOfDay

namespace Stamp

def kindName : Stamp → String
  | .day _ => "date"
  | .time _ => "time"
  | .both .. => "datetime"

def typeName (s : Stamp) : String := "datetime." ++ s.kindName

def offsetText (minutes : Int) : String :=
  (if minutes < 0 then "-" else "+") ++ padded 2 (minutes.natAbs / 60) ++ ":" ++
    padded 2 (minutes.natAbs % 60)

def text : Stamp → String
  | .day d => d.text
  | .time t => t.text
  | .both d t offset => d.text ++ " " ++ t.text ++ (offset.map offsetText).getD ""

/-- A zone by its distance from universal time: whole days, and seconds onward from there. -/
def shownZone (minutes : Int) : String :=
  if minutes = 0 then "datetime.timezone.utc"
  else
    let days := if minutes < 0 then "days=-1, " else ""
    "datetime.timezone(datetime.timedelta(" ++ days ++ "seconds=" ++
      toString (60 * (minutes % 1440)) ++ "))"

/-- A stamp as it is shown inside another value. -/
def shown (s : Stamp) : String :=
  let numbers (ns : List Nat) : String := Text.joined ", " (ns.map toString)
  let inside := match s with
    | .day d => numbers d.parts
    | .time t => numbers t.parts
    | .both d t none => numbers (d.parts ++ t.parts)
    | .both d t (some zone) => numbers (d.parts ++ t.parts) ++ ", tzinfo=" ++ shownZone zone
  s.typeName ++ "(" ++ inside ++ ")"

end Stamp

end LintServer

/-
  LintServer.Exit — leaving, announced.

  The editor is told once that the server exits, and with which code; whoever comes later is
  not heard. A requested exit is performed after a delay, so that the message can arrive. An
  exit that is already under way is only held up for as long. Signals request an exit with
  128 and their number as the code.

  An operation that can fail gives what it leaves beside its failure. What was done before it
  failed stays done: a request for which there is no time stays announced.
-/

import LintServer.Effect

namespace LintServer

/-- A termination that was scheduled. -/
structure Timer where
  due : Delay
  code : Int
  fired : Bool := false
  deriving DecidableEq, Repr

structure Exit where
  delay : Delay := .second
  announced : Bool := false
  timer : Option Timer := none
  /-- The signals that request an exit. -/
  signals : List Int := []
  /-- Whether handlers for signals can be installed. -/
  canHandle : Bool := true
  /-- The time since the start. -/
  now : Delay := .zero
  deriving Repr, Inhabited

namespace Exit

/-- What stands for the place in the program that the exit came from. -/
def ownStack : String := "<stack>"

/-- The signal that asks a program to end. -/
def terminationSignal : Int := 15

/-- Whether a termination was scheduled. -/
def pending (e : Exit) : Bool := e.timer.isSome

def announce (code : Int) (stack : Option String) (e : Exit) : Exit × List Effect :=
  if e.announced then (e, [])
  else ({ e with announced := true },
    [.info ("Exit requested with code " ++ toString code),
     .told (.exitCalled code (stack.getD ownStack))])

/-- The exit is announced and then scheduled, unless one was announced before. Scheduling fails
when there is no such time. -/
def request (code : Int) (stack : Option String) (e : Exit) :
    (Exit × List Effect) × Option Failure :=
  if e.announced then ((e, []), none)
  else
    let (e, told) := e.announce code stack
    match e.now.add e.delay with
    | .ok due => (({ e with timer := some { due, code } }, told ++ [.scheduled e.delay]), none)
    | .error f => ((e, told), some f)

/-- The exit is under way; if it is announced now, it is held up. -/
def called (code : Int) (e : Exit) : Exit × List Effect :=
  if e.announced then (e, [])
  else
    let (e, told) := e.announce code none
    (e, told ++ [.slept e.delay])

/-- Signals begin to request exits; none do where that is not supported. -/
def install (signals : List Int) (e : Exit) : Exit × List Effect :=
  if signals.isEmpty then (e, [])
  else if e.canHandle then ({ e with signals := e.signals ++ signals }, signals.map .handled)
  else (e, [.debug "Signal handlers are not supported on this platform"])

/-- Whether all of the signals can be handled. -/
def installs (signals : List Int) (e : Exit) : Bool := signals.isEmpty || e.canHandle

def hears (signal : Int) (e : Exit) : Bool := e.signals.contains signal

def signal (signal : Int) (e : Exit) : (Exit × List Effect) × Option Failure :=
  if e.hears signal then e.request (128 + signal) none else ((e, []), none)

def Timer.isDue (t : Timer) (now : Delay) : Bool := !t.fired && t.due.hasCome now

/-- The clock gets to a time, and a termination that is due is performed. -/
def reach (now : Delay) (e : Exit) : Exit × List Effect :=
  match e.timer with
  | none => ({ e with now }, [])
  | some t =>
    if Timer.isDue t now then
      ({ e with now, timer := some { t with fired := true } }, [.terminated t.code])
    else ({ e with now }, [])

/-- Time passes, as far as the clock goes. -/
def advance (seconds : Delay) (e : Exit) : (Exit × List Effect) × Option Failure :=
  match e.now.add seconds with
  | .ok now => (e.reach now, none)
  | .error f => ((e, []), some f)

end Exit

end LintServer

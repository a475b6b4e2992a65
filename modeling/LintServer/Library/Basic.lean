/-
  LintServer.Library.Basic — which linter each document uses.

  The first time a document needs its linter an entry is made for it, and its resolution
  begins. When that ends, the entry gets its state, and its future is set, for which others
  may have waited: to an engine, or to none. A future that was set or cancelled before stays
  as it is. Entries have numbers, so that whoever waits for one gets its answer even if the
  document was closed, or closed and opened again, in the meantime. Documents that use the
  same executable share its engine.
-/

import LintServer.Document
import LintServer.Failure

namespace LintServer

/-- A linter that can be run: its executable, and its number among all engines built. -/
structure Engine where
  number : Nat
  path : String
  deriving DecidableEq, Repr, Inhabited

namespace Library

inductive State where
  | pending
  | resolved
  | failed
  deriving DecidableEq, Repr, Inhabited

/-- What those who wait for an entry get, once it is there. -/
inductive Future where
  | unset
  | set (engine : Option Engine)
  | cancelled
  deriving DecidableEq, Repr, Inhabited

namespace Future

def isDone : Future → Bool
  | .unset => false
  | _ => true

/-- The future with a value, unless it is done. -/
def fulfilled (engine : Option Engine) (f : Future) : Future := if f.isDone then f else .set engine

/-- The future without the hope of a value, unless it is done. -/
def abandoned (f : Future) : Future := if f.isDone then f else .cancelled

end Future

structure Entry where
  document : Document
  state : State := .pending
  future : Future := .unset
  /-- Why there is no linter. -/
  failure : Option Failure := none
  deriving Repr, Inhabited

/-- An entry whose resolution ends. -/
def Entry.ended (outcome : Except Failure Engine) (e : Entry) : Entry :=
  match outcome with
  | .ok engine => { e with state := .resolved, future := e.future.fulfilled (some engine) }
  | .error f =>
    { e with state := .failed, future := e.future.fulfilled none, failure := some f }

end Library

open Library in
structure Library where
  /-- The number of the entry of each document. -/
  entries : List (String × Nat) := []
  /-- All entries ever made; an entry's number is its place. -/
  made : List Entry := []
  engines : List (String × Engine) := []
  /-- How many engines were ever built. -/
  built : Nat := 0
  deriving Repr, Inhabited

namespace Library

def number? (l : Library) (uri : String) : Option Nat := Table.get? l.entries uri

def has (l : Library) (uri : String) : Bool := Table.has l.entries uri

def entry? (l : Library) (n : Nat) : Option Entry := l.made[n]?

def stateAt? (l : Library) (n : Nat) : Option State := (l.entry? n).map (·.state)

def futureAt? (l : Library) (n : Nat) : Option Future := (l.entry? n).map (·.future)

/-- The state of a document's entry. -/
def state? (l : Library) (uri : String) : Option State := (l.number? uri).bind l.stateAt?

def future? (l : Library) (uri : String) : Option Future := (l.number? uri).bind l.futureAt?

/-- The entry made last for a document, whether or not it is still there. -/
def latest? (l : Library) (uri : String) : Option Entry :=
  l.made.reverse.find? (·.document.uri == uri)

/-- A new pending entry for a document. -/
def add (l : Library) (d : Document) : Library :=
  { l with entries := Table.put d.uri l.made.length l.entries, made := l.made ++ [{ document := d }] }

def forget (l : Library) (uri : String) : Library := { l with entries := Table.erase l.entries uri }

/-- The end of the resolution of an entry. -/
def settle (l : Library) (n : Nat) (outcome : Except Failure Engine) : Library :=
  { l with made := l.made.modify n (Entry.ended outcome) }

/-- No entries and no engines; nobody waits for those there were any longer. -/
def clear (l : Library) : Library where
  made := l.entries.foldl (fun made e => made.modify e.2 fun entry =>
    { entry with future := entry.future.abandoned }) l.made
  built := l.built

/-- A new engine for an executable. -/
def build (l : Library) (path : String) : Library × Engine :=
  let engine := { number := l.built + 1, path }
  ({ l with engines := Table.put path engine l.engines, built := l.built + 1 }, engine)

end Library

end LintServer

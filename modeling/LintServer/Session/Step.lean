/-
  LintServer.Session.Step — what happens to a session, and the work that follows.

  After each event everything that is ready is done, round after round: a round does what is
  ready at its beginning, and what becomes ready meanwhile is left to the next. A resolution
  or a call can begin passes or have those told that wait; who was told goes on in the next
  round; a pass that ends is counted in the next, and the last one counted ends its batch. When a
  call fails, that is noticed one round later, and makes nothing ready; so six rounds are enough.
-/

import LintServer.Session.Probe
import LintServer.Session.Resolution

namespace LintServer.Session

def start (env : Surroundings) (call : Nat) (goal : Goal) (s : Session) : Session :=
  match goal with
  | .lookUp uri => s.awaitFor env uri (.lookUp call)
  | .validate d => s.awaitFor env d.uri (.pass ⟨d, .alone call⟩)
  | .validateMany ds => s.beginBatch call ds
  | .validateAll => s.beginAll call
  | .reconsider uris => s.forgetNoConfig.reconsider env call uris
  | .probe file engine => s.beginProbe env call file engine

/-- A lint run has ended. -/
def runEnded (env : Surroundings) (r : Running) (s : Session) : Session :=
  match r.purpose with
  | .pass p engine => s.endPass p engine r.outcome
  | .probe call file => s.endProbe call file r.outcome
  | .reconsider call file rest => (s.reconsidered file r.outcome).reconsider env call rest

def perform (env : Surroundings) (s : Session) : Task → Session
  | .look n => s.look env n
  | .search n => s.goOn env n
  | .start call goal => s.start env call goal
  | .pass p => s.awaitFor env p.document.uri (.pass p)
  | .relay n w => s.enqueue [.wake n w]
  | .wake n w => s.await env n w
  | .ended r => s.runEnded env r
  | .tally call => s.tally call
  | .conclude call => s.conclude call
  | .report f => s.emit [.gaveUp f]

def round (env : Surroundings) (s : Session) : Session :=
  s.ready.foldl (perform env) { s with ready := [] }

/-- How many rounds there are after an event. -/
def rounds : Nat := 6

/-- All that is ready is done. -/
def settle (env : Surroundings) (s : Session) : Session := Nat.repeat (round env) rounds s

/-! ## Events -/

def call (number : Nat) (goal : Goal) (s : Session) : Session := s.enqueue [.start number goal]

def opened (d : Document) (s : Session) : Session :=
  { s with documents := s.documents.opened d }

/-- The fixes and the entry of a document are forgotten. -/
def forgotten (uri : String) (s : Session) : Session :=
  { s with registry := s.registry.clear uri, library := s.library.forget uri }

def closed (uri : String) (s : Session) : Session :=
  { s with documents := s.documents.closed uri }.forgotten uri

/-- The oldest run held under a name ends; whether there was one. -/
def release (name : String) (s : Session) : Session × Bool :=
  match s.running.find? (·.name == name) with
  | none => (s, false)
  | some r =>
    ({ s with running := s.running.eraseP (·.name == name) }.enqueue [.ended r], true)

/-- The oldest waiting resolution of a document goes on; whether there was one. -/
def releaseLibrary (uri : String) (s : Session) : Session × Bool :=
  let isFor := fun n => ((s.library.entry? n).map (·.document.uri)) == some uri
  match s.waitingSearches.find? isFor with
  | none => (s, false)
  | some n =>
    ({ s with waitingSearches := s.waitingSearches.eraseP isFor }.enqueue [.search n], true)

/-- Everything that was remembered goes. -/
def shutdown (s : Session) : Session :=
  { s with registry := [], reported := {} }.clearLibrary

/-- All work that has begun is dropped. -/
def dropWork (s : Session) : Session :=
  { s with waitingSearches := [], waiters := [], running := [], batches := [], ready := [] }

end LintServer.Session

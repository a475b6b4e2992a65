/-
  LintServer.Session.Resolution — finding the linter of a document, and waiting for it.

  A resolution begins after whatever asked for it has paused. It may have to wait for its
  release. When it ends, everything that waits for its entry is told, in the order it began to
  wait, and goes on one turn later.
-/

import LintServer.Session.Pass

namespace LintServer.Session

/-- The document gets an entry, unless it has one, and its resolution begins. -/
def ensure (d : Document) (s : Session) : Session :=
  if s.library.has d.uri then s
  else { s with library := s.library.add d }.enqueue [.look s.library.made.length]

def tell (w : Nat × Waiter) : Task := .relay w.1 w.2

/-- The end of a resolution, of which everything that waits for the entry is told. -/
def settled (n : Nat) (outcome : Except Failure Engine) (s : Session) : Session :=
  let (woken, waiters) := s.waiters.partition (·.1 == n)
  { s with library := s.library.settle n outcome, waiters }.enqueue
    (woken.map tell)

/-- The engine for an executable, built if there is none. -/
def engineFor (env : Surroundings) (path : String) (s : Session) :
    Session × Except Failure Engine :=
  match Table.get? s.library.engines path with
  | some engine => (s, .ok engine)
  | none =>
    match env.build path with
    | .error f => (s, .error f)
    | .ok () =>
      let (library, engine) := s.library.build path
      ({ s with library }.emit [.built path], .ok engine)

def loadFailed (n : Nat) (uri : String) (f : Failure) (s : Session) : Session :=
  (s.settled n (.error f)).emit
    [.warning ("Failed to load ESLint for " ++ uri ++ ": " ++ f.text), .unloaded uri f]

/-- The resolution of an entry, from looking for the executable on. -/
def searchFor (env : Surroundings) (n : Nat) (d : Document) (s : Session) : Session :=
  let s := s.emit [.searched n d.uri]
  match env.find s.search d with
  | .error f => s.loadFailed n d.uri f
  | .ok path =>
    match s.engineFor env path with
    | (s, .error f) => s.loadFailed n d.uri f
    | (s, .ok engine) =>
      (s.settled n (.ok engine)).emit
        [.info ("ESLint library loaded from: " ++ path), .loaded path]

/-- A resolution begins. -/
def look (env : Surroundings) (n : Nat) (s : Session) : Session :=
  match s.library.entry? n with
  | none => s
  | some e =>
    if env.waits e.document.uri then { s with waitingSearches := s.waitingSearches ++ [n] }
    else s.searchFor env n e.document

/-- A resolution that was released. -/
def goOn (env : Surroundings) (n : Nat) (s : Session) : Session :=
  match s.library.entry? n with
  | none => s
  | some e => s.searchFor env n e.document

/-- What waited for an entry gets its engine, or none if there is none. -/
def proceed (env : Surroundings) (w : Waiter) (engine : Option Engine) (s : Session) : Session :=
  match w with
  | .lookUp call => s.done call (.ok (.engine engine))
  | .pass p =>
    match engine with
    | some engine => s.lint env p engine.path
    | none => s.skipPass p

/-- What waited for an entry learns that it will get nothing. -/
def abandon (w : Waiter) (s : Session) : Session :=
  match w with
  | .lookUp call => s.done call (.error cancelled)
  | .pass p => s.abandonPass p

/-- Wait for the future of an entry, or go on if it is done. -/
def await (env : Surroundings) (n : Nat) (w : Waiter) (s : Session) : Session :=
  match s.library.futureAt? n with
  | some .unset => { s with waiters := s.waiters ++ [(n, w)] }
  | some (.set engine) => s.proceed env w engine
  | some .cancelled => s.abandon w
  | none => s.proceed env w none

/-- Wait for the linter of a document; one that was never asked for there is none. -/
def awaitFor (env : Surroundings) (uri : String) (w : Waiter) (s : Session) : Session :=
  match s.library.number? uri with
  | none => s.proceed env w none
  | some n => s.await env n w

/-- All entries and engines go, and the resolutions under way are cancelled. Whatever waits for
an entry is told, entry by entry. -/
def clearLibrary (s : Session) : Session :=
  let woken := s.library.entries.flatMap fun e => s.waiters.filter (·.1 == e.2)
  { s with
    library := s.library.clear
    waiters := s.waiters.filter fun w => !s.library.entries.any (·.2 == w.1)
    waitingSearches := []
    ready := s.ready.filter (!·.isResolution) ++ woken.map tell }

end LintServer.Session

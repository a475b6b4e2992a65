/-
  LintServer.Session.Basic — everything the server remembers, and the work it has begun.

  Work is done in calls. A call runs without interruption until it has to wait: for the entry
  of a document's linter, for a lint run, or for the passes of a batch. What can go on is
  ready, in the order it became so. Every effect and every finished call is kept.
-/

import LintServer.Engine.Run
import LintServer.Fix.Command
import LintServer.Library.Basic
import LintServer.Library.Search
import LintServer.Settings
import LintServer.Validation.Classify
import LintServer.Validation.Messages

namespace LintServer

/-- What is outside the session. -/
structure Surroundings where
  /-- The executable for a document. -/
  find : Search → Document → Except Failure String
  /-- Whether looking for the linter of a document has to wait for its release. -/
  waits : String → Bool
  /-- Whether an engine can be built for an executable. -/
  build : String → Except Failure Unit
  /-- A lint run, by engine, content, file and options. -/
  run : String → Text → String → List (String × Json) → Engine.Run

namespace Session

/-- What a call is to do. -/
inductive Goal where
  | lookUp (uri : String)
  | validate (document : Document)
  | validateMany (documents : List Document)
  | validateAll
  /-- Configuration files have changed. -/
  | reconsider (uris : List String)
  /-- Does a configuration file lint again? -/
  | probe (file engine : String)
  deriving Repr

inductive Answer where
  | engine (engine : Option Engine)
  /-- A status, or none if there was no linter. -/
  | status (s : Option Status)
  | truth (b : Bool)
  deriving Repr

/-- Who a pass over a document is for: a call of its own, or a batch and a place in it. -/
inductive Owner where
  | alone (call : Nat)
  | member (call place : Nat)
  deriving DecidableEq, Repr

structure Pass where
  document : Document
  owner : Owner
  deriving Repr

/-- What waits for an entry. -/
inductive Waiter where
  | lookUp (call : Nat)
  | pass (p : Pass)
  deriving Repr

/-- What a lint run is for. -/
inductive Purpose where
  | pass (p : Pass) (engine : String)
  | probe (call : Nat) (file : String)
  /-- A probe, with the changed files that come after it. -/
  | reconsider (call : Nat) (file : String) (rest : List String)
  deriving Repr

/-- A lint run that has not ended, and the name under which it is released. -/
structure Running where
  name : String
  purpose : Purpose
  outcome : Except Failure (Option Report)

/-- A batch whose passes have not all ended. -/
structure Batch where
  /-- How many of its passes have not ended, or have not been counted. -/
  left : Nat
  statuses : List Status := []
  messages : Messages := []
  /-- What escaped from each pass. -/
  escaped : List (Option Failure) := []
  deriving Repr

/-- What can be done next. -/
inductive Task where
  /-- A resolution begins. -/
  | look (entry : Nat)
  /-- A resolution need not wait any more. -/
  | search (entry : Nat)
  | start (call : Nat) (goal : Goal)
  /-- A pass of a batch begins. -/
  | pass (p : Pass)
  /-- An entry is not pending any more; what waited for it has yet to learn that. -/
  | relay (entry : Nat) (w : Waiter)
  | wake (entry : Nat) (w : Waiter)
  | ended (r : Running)
  /-- A pass of a batch has ended and is to be counted. -/
  | tally (call : Nat)
  /-- All passes of a batch have ended. -/
  | conclude (call : Nat)
  /-- A call has failed, which is yet to be noticed. -/
  | report (f : Failure)

/-- Whether a task belongs to a resolution. -/
def Task.isResolution : Task → Bool
  | .look _ | .search _ => true
  | _ => false

end Session

open Session in
structure Session where
  config : Config := {}
  settings : Settings := {}
  search : Search := {}
  documents : Documents := []
  /-- Whether there are documents to ask for. -/
  isOpen : Bool := true
  library : Library := {}
  registry : FixRegistry := []
  reported : Reported := {}
  /-- The status published last. -/
  status : Option Status := none
  /-- Resolutions that wait for their release. -/
  waitingSearches : List Nat := []
  /-- What waits for which entry. -/
  waiters : List (Nat × Waiter) := []
  running : List Running := []
  batches : List (Nat × Batch) := []
  ready : List Task := []
  history : List Effect := []
  finished : List (Nat × Except Failure Answer) := []

namespace Session

def emit (es : List Effect) (s : Session) : Session := { s with history := s.history ++ es }

def publish (status : Status) (s : Session) : Session :=
  { s with status := some status }.emit [.told (.status status)]

def enqueue (ts : List Task) (s : Session) : Session := { s with ready := s.ready ++ ts }

/-- What is yet to be noticed of the end of a call: that it failed, unless it was cancelled. -/
def reports : Except Failure Answer → List Task
  | .error f => if f.isCancelled then [] else [.report f]
  | .ok _ => []

/-- A call has ended. -/
def done (call : Nat) (result : Except Failure Answer) (s : Session) : Session :=
  { s with finished := s.finished ++ [(call, result)] }.enqueue (reports result)

/-- An engine is called; what the run is, and its effects so far. -/
def invoke (env : Surroundings) (engine : String) (content : Text) (file : String) (s : Session) :
    Session × Engine.Run :=
  let options := s.settings.options
  let run := env.run engine content file options
  (s.emit (.linted engine content file options :: run.effects), run)

/-- A run that has not ended yet is kept until it is released. -/
def keep (name : String) (purpose : Purpose) (run : Engine.Run) (s : Session) : Session :=
  { s with running := s.running ++ [⟨name, purpose, run.outcome⟩] }

/-- Whether a document is left alone by passes over all documents. -/
def ignores (s : Session) (d : Document) : Bool :=
  !s.config.supports d.language || !s.library.has d.uri

end Session

end LintServer

/-
  LintServer.Session.Pass — passes over one document, and batches of them.

  A pass takes the document's fixes away and, if the run gave a report that can be converted,
  records the new ones and publishes the diagnostics. What fails is classified. A pass of its
  own publishes a status; in a batch the passes leave theirs to the batch, which publishes the
  worst of them when the last has ended, after the messages no classifier recognised. If
  something escaped from a pass, the batch as a whole has failed.
-/

import LintServer.Session.Basic

namespace LintServer.Session

/-- What a lint run leaves of a document's fixes and diagnostics. -/
def validated (d : Document) (outcome : Except Failure (Option Report)) (s : Session) :
    Session × Except Failure Unit :=
  let bare := s.registry.clear d.uri
  match outcome with
  | .error f => ({ s with registry := bare }, .error f)
  | .ok report =>
    let (registry, found) := bare.collectReport d report
    let s := { s with registry }
    match found with
    | .error f => (s, .error f)
    | .ok found => (s.emit [.told (.diagnostics d.uri found)], .ok ())

/-- The user is told of a failed run, as far as the chain knows what it means. -/
def judged (chain : List Classifier) (x : Failed) (s : Session) :
    Session × Except Failure (Option Status) :=
  let v := Classifier.classify s.documents s.reported x chain
  ({ s with reported := v.reported }.emit v.effects, v.status)

/-! ## Batches -/

/-- What a pass leaves in its batch. -/
inductive Mark where
  | clean
  | failed (s : Status) (message : Option String)
  | escaped (f : Failure)

def Batch.marked (b : Batch) (place : Nat) : Mark → Batch
  | .clean => b
  | .failed status message =>
    { b with
      statuses := b.statuses ++ [status]
      messages := (message.map b.messages.add).getD b.messages }
  | .escaped f => { b with escaped := b.escaped.set place (some f) }

/-- A batch of a call is changed, if there is one. -/
def withBatch (call : Nat) (change : Batch → Batch) (s : Session) : Session :=
  { s with batches := s.batches.map fun e => if e.1 = call then (call, change e.2) else e }

/-- A pass of a batch has ended. -/
def memberEnded (call place : Nat) (m : Mark) (s : Session) : Session :=
  (s.withBatch call (·.marked place m)).enqueue [.tally call]

/-- A pass that has ended is counted; after the last the batch is concluded. -/
def tally (call : Nat) (s : Session) : Session :=
  let s := s.withBatch call fun b => { b with left := b.left - 1 }
  s.enqueue (if (s.batches.lookup call).any (·.left == 0) then [.conclude call] else [])

def allFailed : String := "Validating all open documents failed"

/-- The end of a batch. -/
def concluded (call : Nat) (b : Batch) (s : Session) : Session :=
  match b.escaped.findSome? id with
  | some f =>
    if f.isCancelled then s.done call (.error f)
    else
      let told := b.messages.shown ++ [.told (.logWarning (allFailed ++ "."))]
      ((s.emit (.error (allFailed ++ ": " ++ f.text) :: told)).publish .error).done call
        (.ok (.status (some .error)))
  | none =>
    let status := Status.worst .ok b.statuses
    ((s.emit b.messages.shown).publish status).done call (.ok (.status (some status)))

def conclude (call : Nat) (s : Session) : Session :=
  match s.batches.lookup call with
  | none => s
  | some b => { s with batches := s.batches.filter (·.1 != call) }.concluded call b

/-- Passes over the given documents begin, all but those to be ignored. -/
def beginBatch (call : Nat) (ds : List Document) (s : Session) : Session :=
  let members := ds.filter (!s.ignores ·)
  let batch : Batch := { left := members.length, escaped := members.map fun _ => none }
  if members.isEmpty then s.concluded call batch
  else
    { s with batches := s.batches ++ [(call, batch)] }.enqueue
      (members.mapIdx fun place d => .pass ⟨d, .member call place⟩)

/-- What is said when documents are asked for before there are any to ask for. -/
def notOpen : Failure :=
  .saying .notReady "The workspace is not available - has the server been initialized?"

/-- Passes over all open documents begin. -/
def beginAll (call : Nat) (s : Session) : Session :=
  if s.isOpen then s.beginBatch call s.documents.all else s.done call (.error notOpen)

/-! ## Passes -/

/-- A pass of its own has ended; its failure always has a status. -/
def endAlone (call : Nat) (x : Except Failed Unit) (s : Session) : Session :=
  match x with
  | .ok () => (s.publish .ok).done call (.ok (.status (some .ok)))
  | .error x =>
    match s.judged Classifier.single x with
    | (s, .error f) => s.done call (.error f)
    | (s, .ok status) =>
      let status := status.getD .error
      (s.publish status).done call (.ok (.status (some status)))

def endMember (call place : Nat) (x : Except Failed Unit) (s : Session) : Session :=
  match x with
  | .ok () => s.memberEnded call place .clean
  | .error x =>
    match s.judged Classifier.batch x with
    | (s, .error f) => s.memberEnded call place (.escaped f)
    | (s, .ok (some status)) => s.memberEnded call place (.failed status none)
    | (s, .ok none) =>
      match Classifier.userMessage x with
      | .error f => s.memberEnded call place (.escaped f)
      | .ok text => s.memberEnded call place (.failed .error (some text))

/-- The lint run of a pass has ended. -/
def endPass (p : Pass) (engine : String) (outcome : Except Failure (Option Report))
    (s : Session) : Session :=
  let (s, result) := s.validated p.document outcome
  let result := result.mapError fun failure => { document := p.document, engine, failure }
  match p.owner with
  | .alone call => s.endAlone call result
  | .member call place => s.endMember call place result

/-- A pass whose document has no linter. -/
def skipPass (p : Pass) (s : Session) : Session :=
  match p.owner with
  | .alone call => s.done call (.ok (.status none))
  | .member call place => s.memberEnded call place .clean

def cancelled : Failure := { kind := .cancelled }

/-- A pass whose linter will never be known. -/
def abandonPass (p : Pass) (s : Session) : Session :=
  match p.owner with
  | .alone call => s.done call (.error cancelled)
  | .member call place => s.memberEnded call place (.escaped cancelled)

/-- The lint run of a pass begins; a document whose address is none fails at once. -/
def lint (env : Surroundings) (p : Pass) (engine : String) (s : Session) : Session :=
  match p.document.path with
  | .error f => s.endPass p engine (.error f)
  | .ok path =>
    let (s, run) := s.invoke env engine p.document.text path
    match run.held with
    | some name => s.keep name (.pass p engine) run
    | none => s.endPass p engine run.outcome

end LintServer.Session
